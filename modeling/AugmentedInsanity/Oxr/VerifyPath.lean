/-
The check of a path that an application names (`oxr_verify.c`): a scanner with four states goes through the string,
and in each round looks at its last character too. It lets exactly the well-formed paths through
(`oxrVerifyFullPath_iff`): of a path that it is in the middle of, what is left has to be the rest of a component, which
needs a character that is not a dot unless it has had one, and components.
-/
import AugmentedInsanity.Lib.Segments
import AugmentedInsanity.Oxr.PathStore

namespace AugmentedInsanity.Oxr

open Segments

/-! ## The check -/

/-- `'/'`. -/
abbrev slash : UInt8 := 47

/-- `'.'`. -/
abbrev dot : UInt8 := 46

abbrev XR_MAX_PATH_LENGTH : ℕ := 256

def validPathChar (c : UInt8) : Bool :=
  -- 'a' to 'z', '0' to '9', '-', '_', '.' and '/'
  if 97 ≤ c ∧ c ≤ 122 then true
  else if 48 ≤ c ∧ c ≤ 57 then true
  else if c = 45 ∨ c = 95 ∨ c = dot ∨ c = slash then true
  else false

/-- The messages that come with `XR_ERROR_PATH_FORMAT_INVALID`. -/
inductive PathFormatError
  | tooLong
  | noForwardSlash
  | twoSlashes
  | onlyDots
  | notAValidCharacter (c : UInt8) (position : ℕ)
  | emptyString
  | notAValidPath
  | endsWithDots
  deriving DecidableEq

inductive VerifyState
  | start
  | middle
  | slash
  | slashdots
  deriving DecidableEq

/-- The switch in the loop: the next state, and `valid`, which is true whenever a round begins. -/
def VerifyState.next (state : VerifyState) (c : UInt8) : Except PathFormatError (VerifyState × Bool) :=
  match state with
  | .start => if c ≠ Oxr.slash then .error .noForwardSlash else .ok (.slash, true)
  | .slash =>
    if c = dot then .ok (.slashdots, true)
    else if c = Oxr.slash then .error .twoSlashes
    else .ok (.middle, validPathChar c)
  | .middle => if c = Oxr.slash then .ok (.slash, true) else .ok (.middle, validPathChar c)
  | .slashdots =>
    if c = Oxr.slash then .error .onlyDots
    else if c = dot then .ok (.slashdots, true)
    else .ok (.middle, validPathChar c)

/-- The loop, over what is left of a path with the length and the last character. -/
def verifyLoop (length : ℕ) (last : Option UInt8) : VerifyState → PathString → Except PathFormatError VerifyState
  | state, [] => .ok state
  | state, c :: path =>
    match state.next c with
    | .error e => .error e
    | .ok (state, valid) =>
      let valid := if valid then last != some slash else valid
      if !valid then .error (.notAValidCharacter c length) else verifyLoop length last state path

def oxrVerifyFullPath (path : PathString) : Except PathFormatError Unit :=
  if XR_MAX_PATH_LENGTH ≤ path.length then .error .tooLong
  else
    match verifyLoop path.length path.getLast? .start path with
    | .error e => .error e
    | .ok .start => .error .emptyString
    -- It was '/path_component/', or '/'.
    | .ok .slash => if 1 < path.length then .ok () else .error .notAValidPath
    | .ok .slashdots => .error .endsWithDots
    | .ok .middle => .ok ()

/-! ## Well-formed paths -/

def ComponentChar (c : UInt8) : Prop := (97 ≤ c ∧ c ≤ 122) ∨ (48 ≤ c ∧ c ≤ 57) ∨ c = 45 ∨ c = 95 ∨ c = dot

/-- A component is not empty, and does not consist of dots only. -/
structure IsComponent (s : PathString) : Prop where
  nonempty : s ≠ []
  chars : ∀ c ∈ s, ComponentChar c
  notDots : ∃ c ∈ s, c ≠ dot

/-- A path is short, and made of components that each come after a slash. -/
structure WellFormedPath (path : PathString) : Prop where
  short : path.length < XR_MAX_PATH_LENGTH
  components : ∃ components, components ≠ [] ∧ path = joined slash components ∧ ∀ s ∈ components, IsComponent s

theorem validPathChar_iff {c : UInt8} (h : c ≠ slash) : validPathChar c = true ↔ ComponentChar c := by
  unfold validPathChar ComponentChar
  split_ifs <;> simp_all

theorem not_componentChar_slash : ¬ ComponentChar slash := by
  unfold ComponentChar
  decide

theorem componentChar_dot : ComponentChar dot := .inr (.inr (.inr (.inr rfl)))

theorem IsComponent.slash_not_mem {s : PathString} (h : IsComponent s) : slash ∉ s :=
  fun hmem => not_componentChar_slash (h.chars _ hmem)

/-! ## What is left of a path -/

def VerifyState.Left (state : VerifyState) (t : PathString) : Prop :=
  (∀ c ∈ t, ComponentChar c) ∧ (state = .middle ∨ ∃ c ∈ t, c ≠ dot)

variable {t : PathString}

theorem left_slash_iff : VerifyState.slash.Left t ↔ IsComponent t := by
  constructor
  · rintro ⟨hchars, h | ⟨c, hc, hdot⟩⟩
    · cases h
    · exact ⟨List.ne_nil_of_mem hc, hchars, c, hc, hdot⟩
  · exact fun h => ⟨h.chars, .inr h.notDots⟩

variable {state : VerifyState}

theorem left_dot_iff (h : state ≠ .middle) : state.Left (dot :: t) ↔ VerifyState.slashdots.Left t := by
  unfold VerifyState.Left
  simp [h, componentChar_dot]

theorem left_cons_iff {c : UInt8} (h : state = .middle ∨ c ≠ dot) :
    state.Left (c :: t) ↔ ComponentChar c ∧ VerifyState.middle.Left t := by
  unfold VerifyState.Left
  rw [List.forall_mem_cons]
  constructor
  · exact fun ⟨⟨hc, ht⟩, _⟩ => ⟨hc, ht, .inl rfl⟩
  · refine fun ⟨hc, ht, _⟩ => ⟨⟨hc, ht⟩, h.imp_right fun hdot => ?_⟩
    exact ⟨c, List.mem_cons_self, hdot⟩

theorem not_left_nil (h : state ≠ .middle) : ¬ state.Left [] := by
  rintro ⟨-, hmiddle | ⟨c, hc, -⟩⟩
  · exact h hmiddle
  · cases hc

/-! ## The scanner -/

variable {length : ℕ} {last : Option UInt8} {state' : VerifyState} {path : PathString} {c : UInt8}

theorem next_slash_iff (hstart : state ≠ .start) :
    state.next slash = .ok (state', true) ↔ state = .middle ∧ state' = .slash := by
  have hne : slash ≠ dot := by decide
  cases state with
  | start => exact absurd rfl hstart
  | middle => simp [VerifyState.next, eq_comm]
  | slash | slashdots => simp [VerifyState.next, hne]

theorem next_dot (hstart : state ≠ .start) (hmiddle : state ≠ .middle) :
    state.next dot = .ok (.slashdots, true) := by
  have hne : dot ≠ slash := by decide
  cases state with
  | start => exact absurd rfl hstart
  | middle => exact absurd rfl hmiddle
  | slash | slashdots => simp [VerifyState.next, hne]

theorem next_other (hstart : state ≠ .start) (hslash : c ≠ slash) (hdot : state = .middle ∨ c ≠ dot) :
    state.next c = .ok (.middle, validPathChar c) := by
  cases state with
  | start => exact absurd rfl hstart
  | middle => exact if_neg hslash
  | slash => rw [VerifyState.next, if_neg (hdot.resolve_left nofun), if_neg hslash]
  | slashdots => rw [VerifyState.next, if_neg hslash, if_neg (hdot.resolve_left nofun)]

theorem next_eq_slash (h : state.next c = .ok (.slash, true)) : c = slash := by
  by_contra hne
  cases state with
  | start => simp [VerifyState.next, hne] at h
  | middle => simp [VerifyState.next, hne] at h
  | slash | slashdots =>
    simp only [VerifyState.next] at h
    split_ifs at h
    all_goals simp at h

theorem verifyLoop_cons {final : VerifyState} :
    verifyLoop length last state (c :: path) = .ok final ↔ last ≠ some slash ∧
      ∃ state', state.next c = .ok (state', true) ∧ verifyLoop length last state' path = .ok final := by
  rw [verifyLoop]
  cases state.next c with
  | error e => simp
  | ok out =>
    obtain ⟨state', valid⟩ := out
    cases valid with
    | false => simp
    | true => by_cases hlast : last = some slash <;> simp [hlast]

theorem verifyLoop_iff (hlast : last ≠ some slash) (hstart : state ≠ .start) :
    verifyLoop length last state path = .ok .middle ↔ Rest slash IsComponent state.Left path := by
  induction path generalizing state with
  | nil =>
    rw [rest_nil, verifyLoop, Except.ok.injEq]
    constructor
    · rintro rfl
      exact ⟨List.forall_mem_nil _, .inl rfl⟩
    · exact fun hleft => not_not.1 fun h => not_left_nil h hleft
  | cons c path ih =>
    rw [verifyLoop_cons, and_iff_right hlast]
    by_cases hslash : c = slash
    · subst hslash
      have hnext : Rest slash IsComponent IsComponent path ↔ verifyLoop length last .slash path = .ok .middle :=
        (rest_congr fun t => left_slash_iff.symm).trans (ih (by decide)).symm
      rw [rest_cons_sep, hnext]
      constructor
      · rintro ⟨state', hstate, hrest⟩
        obtain ⟨rfl, rfl⟩ := (next_slash_iff hstart).1 hstate
        exact ⟨⟨List.forall_mem_nil _, .inl rfl⟩, hrest⟩
      · rintro ⟨hleft, hrest⟩
        have hmiddle : state = .middle := not_not.1 fun h => not_left_nil h hleft
        exact ⟨.slash, (next_slash_iff hstart).2 ⟨hmiddle, rfl⟩, hrest⟩
    · rw [rest_cons hslash]
      by_cases hdots : state ≠ .middle ∧ c = dot
      · obtain ⟨hmiddle, rfl⟩ := hdots
        rw [rest_congr fun t => left_dot_iff hmiddle, next_dot hstart hmiddle, ← ih (by decide)]
        simp
      · have hdot : state = .middle ∨ c ≠ dot := by
          rw [← not_ne_iff, ← not_and_or]
          exact hdots
        rw [rest_congr fun t => left_cons_iff hdot, next_other hstart hslash hdot]
        by_cases hchar : validPathChar c = true
        · have hcomponent := (validPathChar_iff hslash).1 hchar
          have hmiddle := @ih .middle (by decide)
          simp [hchar, hcomponent, hmiddle]
        · have hcomponent := mt (validPathChar_iff hslash).2 hchar
          exact iff_of_false (by simp [hchar]) (not_rest fun t ht => hcomponent ht.1)

theorem verifyLoop_slash (h : verifyLoop length last state path = .ok .slash) (hne : path ≠ []) :
    path.getLast? = some slash := by
  induction path generalizing state with
  | nil => exact absurd rfl hne
  | cons c path ih =>
    obtain ⟨-, state', hnext, hrest⟩ := verifyLoop_cons.1 h
    cases path with
    | nil =>
      rw [verifyLoop, Except.ok.injEq] at hrest
      subst hrest
      rw [next_eq_slash hnext]
      rfl
    | cons d path =>
      rw [List.getLast?_cons_cons]
      exact ih hrest (List.cons_ne_nil _ _)

/-! ## All of a path -/

theorem WellFormedPath.getLast?_ne (h : WellFormedPath path) : path.getLast? ≠ some slash := by
  obtain ⟨-, components, hne, rfl, hcomponents⟩ := h
  obtain ⟨front, s, rfl⟩ := List.eq_nil_or_concat components |>.resolve_left hne
  have hs := hcomponents s (by simp)
  rw [joined, List.concat_eq_append, List.flatMap_append, List.flatMap_singleton, List.getLast?_append,
    List.getLast?_cons]
  intro hlast
  cases hend : s.getLast? with
  | none => exact hs.nonempty (List.getLast?_eq_none_iff.1 hend)
  | some c =>
    rw [hend] at hlast
    have hc : c = slash := by simpa using hlast
    exact hs.slash_not_mem (hc ▸ List.mem_of_getLast? hend)

theorem verifyLoop_start_iff (hlast : last ≠ some slash) :
    verifyLoop length last .start path = .ok .middle ↔
      ∃ components, components ≠ [] ∧ path = joined slash components ∧ ∀ s ∈ components, IsComponent s := by
  cases path with
  | nil =>
    refine iff_of_false nofun ?_
    rintro ⟨components, hne, hpath, -⟩
    exact hne (joined_eq_nil.1 hpath.symm)
  | cons c path =>
    rw [verifyLoop_cons, and_iff_right hlast]
    by_cases hslash : c = slash
    · subst hslash
      have hrest : verifyLoop length last .slash path = .ok .middle ↔ Rest slash IsComponent IsComponent path :=
        (verifyLoop_iff hlast (by decide)).trans (rest_congr fun t => left_slash_iff)
      have hsegments : ∀ s, slash ∉ s ∧ IsComponent s ↔ IsComponent s :=
        fun s => and_iff_right_of_imp IsComponent.slash_not_mem
      rw [← segments_cons_iff] at hrest
      simp only [hsegments] at hrest
      simp [VerifyState.next, hrest]
    · refine iff_of_false (by simp [VerifyState.next, hslash]) ?_
      rintro ⟨components, -, hpath, -⟩
      exact hslash (head_joined hpath)

/-- A path gets through if and only if it is well-formed. -/
theorem oxrVerifyFullPath_iff (path : PathString) : oxrVerifyFullPath path = .ok () ↔ WellFormedPath path := by
  unfold oxrVerifyFullPath
  by_cases hlong : XR_MAX_PATH_LENGTH ≤ path.length
  · rw [if_pos hlong]
    exact iff_of_false nofun fun h => absurd h.short (Nat.not_lt.2 hlong)
  rw [if_neg hlong]
  have hshort : path.length < XR_MAX_PATH_LENGTH := Nat.not_le.1 hlong
  by_cases hlast : path.getLast? = some slash
  · -- The first round fails already.
    have hfails : ∀ final, verifyLoop path.length path.getLast? .start path ≠ .ok final := by
      intro final h
      cases path with
      | nil => cases hlast
      | cons c path => exact (verifyLoop_cons.1 h).1 hlast
    refine iff_of_false ?_ fun h => h.getLast?_ne hlast
    split
    · exact nofun
    all_goals rename_i h; exact absurd h (hfails _)
  · have hloop := @verifyLoop_start_iff path.length _ path hlast
    have hwell : WellFormedPath path ↔ verifyLoop path.length path.getLast? .start path = .ok .middle :=
      ⟨fun h => hloop.2 h.components, fun h => ⟨hshort, hloop.1 h⟩⟩
    rw [hwell]
    split
    · rename_i h
      simp [h]
    · rename_i h
      simp [h]
    · rename_i h
      -- The scanner is not behind a slash, as the path does not end with one.
      cases path with
      | nil => cases h
      | cons c path => exact absurd (verifyLoop_slash h (List.cons_ne_nil _ _)) hlast
    · rename_i h
      simp [h]
    · rename_i h
      simp [h]

end AugmentedInsanity.Oxr
