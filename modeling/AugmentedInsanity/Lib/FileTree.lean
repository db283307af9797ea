/-
A tree of directories and files without links, and what a path does in it: it is followed name by
name, `..` leads to the directory around, and a directory is made only inside one that is there. Making
every directory along a path makes exactly what was missing on the way (`makeAll_touched`).
-/
import Mathlib.Data.List.Basic

namespace AugmentedInsanity.FileTree

abbrev Name := List Char

/-- Where something lies: its name first, then the names of the directories around it. -/
abbrev Location := List Name

inductive Node (β : Type)
  | dir
  | file (content : List β)

/-- `refuses` and `room` are what the system decides: what it will not make or open, and how many
bytes fit. `touched` lists what was made or written. -/
structure Files (β : Type) where
  node : Location → Option (Node β)
  cwd : Location
  refuses : Location → Bool
  room : Location → ℕ
  touched : List Location
  root : node [] = some .dir
  around : ∀ name loc, node (name :: loc) ≠ none → node loc = some .dir
  cwd_dir : node cwd = some .dir

inductive Errno
  | eexist
  | other
  deriving DecidableEq

variable {β : Type} {name : Name}

/-- Where one component of a path leads. -/
def enter (loc : Location) (name : Name) : Location :=
  if name = [] ∨ name = ['.'] then loc else if name = ['.', '.'] then loc.tail else name :: loc

def IsName (name : Name) : Prop := name ≠ [] ∧ name ≠ ['.'] ∧ name ≠ ['.', '.']

instance (name : Name) : Decidable (IsName name) := inferInstanceAs (Decidable (_ ∧ _))

theorem enter_of_isName (h : IsName name) (loc : Location) : enter loc name = name :: loc := by
  obtain ⟨hempty, hdot, hdots⟩ := h
  simp [enter, hempty, hdot, hdots]

/-- One component leads one step down unless it is `..`. -/
theorem suffix_enter (h : name ≠ ['.', '.']) (loc : Location) : loc <:+ enter loc name := by
  unfold enter
  split
  · exact List.suffix_refl loc
  · exact List.suffix_cons name loc

/-! ## The text of a path -/

/-- What stands between the slashes. -/
def components : List Char → List Name
  | [] => [[]]
  | c :: path => if c = '/' then [] :: components path else (components path).modifyHead (c :: ·)

theorem components_ne_nil (path : List Char) : components path ≠ [] := by
  cases path with
  | nil => simp [components]
  | cons c path =>
    rw [components]
    split
    · exact List.cons_ne_nil _ _
    · simp [List.modifyHead_eq_nil_iff, components_ne_nil path]

theorem components_append_slash (path rest : List Char) :
    components (path ++ '/' :: rest) = components path ++ components rest := by
  induction path with
  | nil => simp [components]
  | cons c path ih =>
    rw [List.cons_append, components, components, ih]
    split
    · rfl
    · obtain ⟨name, names, hnames⟩ := List.exists_cons_of_ne_nil (components_ne_nil path)
      simp [hnames]

theorem components_of_not_mem {path : List Char} (h : '/' ∉ path) : components path = [path] := by
  induction path with
  | nil => rfl
  | cons c path ih =>
    simp only [List.mem_cons, not_or] at h
    rw [components, if_neg (Ne.symm h.1), ih h.2, List.modifyHead_cons]

/-- The first component begins the path, the others lie within it. -/
theorem components_within (path : List Char) :
    ∃ name names, components path = name :: names ∧ name <+: path ∧ ∀ other ∈ names, other <:+: path := by
  induction path with
  | nil => exact ⟨[], [], rfl, List.prefix_refl [], fun other h => (List.not_mem_nil h).elim⟩
  | cons c path ih =>
    obtain ⟨name, names, heq, hname, hnames⟩ := ih
    rw [components]
    split
    · refine ⟨[], components path, rfl, List.nil_prefix, fun other hother => ?_⟩
      rw [heq] at hother
      rcases List.mem_cons.mp hother with rfl | hother
      · exact List.infix_cons hname.isInfix
      · exact List.infix_cons (hnames other hother)
    · refine ⟨c :: name, names, by rw [heq, List.modifyHead_cons], ?_, fun other hother => ?_⟩
      · exact List.cons_prefix_cons.mpr ⟨rfl, hname⟩
      · exact List.infix_cons (hnames other hother)

theorem infix_of_mem_components {path : List Char} (h : name ∈ components path) : name <:+: path := by
  obtain ⟨first, names, heq, hfirst, hnames⟩ := components_within path
  rw [heq] at h
  rcases List.mem_cons.mp h with rfl | h
  · exact hfirst.isInfix
  · exact hnames name h

/-- The path up to its last slash. -/
def upToLastSlash : List Char → Option (List Char)
  | [] => none
  | c :: path =>
    match upToLastSlash path with
    | some before => some (c :: before)
    | none => if c = '/' then some [] else none

theorem upToLastSlash_append (path rest : List Char) :
    upToLastSlash (path ++ '/' :: rest) =
      some ((upToLastSlash rest).elim path fun before => path ++ '/' :: before) := by
  induction path with
  | nil => cases h : upToLastSlash rest <;> simp [upToLastSlash, h]
  | cons c path ih =>
    rw [List.cons_append, upToLastSlash, ih]
    cases upToLastSlash rest <;> rfl

/-- What is left of a path has its components, but the last. -/
theorem components_upToLastSlash {path before : List Char} (h : upToLastSlash path = some before)
    (hname : name ∈ components before) : name ∈ components path := by
  obtain ⟨last, rfl⟩ : ∃ last, path = before ++ '/' :: last := by
    clear hname
    induction path generalizing before with
    | nil => cases h
    | cons c path ih =>
      rw [upToLastSlash] at h
      split at h
      · next before' hbefore =>
        cases h
        obtain ⟨last, hlast⟩ := ih hbefore
        exact ⟨last, congrArg (c :: ·) hlast⟩
      · split at h
        · next hc =>
          cases h
          exact ⟨path, by rw [hc, List.nil_append]⟩
        · cases h
  rw [components_append_slash]
  exact List.mem_append_left _ hname

namespace Files

def isDir (t : Files β) (loc : Location) : Bool :=
  match t.node loc with
  | some .dir => true
  | _ => false

variable {t : Files β} {loc : Location}

theorem isDir_iff : t.isDir loc = true ↔ t.node loc = some .dir := by
  unfold isDir
  split <;> simp_all

theorem isDir_enter (h : t.isDir loc = true) (hname : ¬ IsName name) : t.isDir (enter loc name) = true := by
  unfold enter
  split
  · exact h
  · next hstay =>
    push Not at hstay
    have hdots : name = ['.', '.'] := by
      by_contra hdots
      exact hname ⟨hstay.1, hstay.2, hdots⟩
    rw [if_pos hdots]
    cases loc with
    | nil => exact h
    | cons inner loc =>
      have hthere : t.node (inner :: loc) ≠ none := by simp [isDir_iff.mp h]
      exact isDir_iff.mpr (t.around inner loc hthere)

/-- What can be made or written at a place: it lies in a directory and is none itself. -/
def Free (t : Files β) (loc : Location) : Prop :=
  loc ≠ [] ∧ t.isDir loc.tail = true ∧ t.isDir loc = false

instance (t : Files β) (loc : Location) : Decidable (t.Free loc) := inferInstanceAs (Decidable (_ ∧ _))

theorem root_update (h : t.Free loc) (n : Node β) : Function.update t.node loc (some n) [] = some .dir := by
  rw [Function.update_of_ne (Ne.symm h.1)]
  exact t.root

theorem around_update (h : t.Free loc) (n : Node β) (name : Name) (outer : Location)
    (hthere : Function.update t.node loc (some n) (name :: outer) ≠ none) :
    Function.update t.node loc (some n) outer = some .dir := by
  obtain ⟨-, hinside, hfree⟩ := h
  have hdir : t.node outer = some .dir := by
    by_cases hloc : name :: outer = loc
    · subst hloc
      exact isDir_iff.mp hinside
    · rw [Function.update_of_ne hloc] at hthere
      exact t.around name outer hthere
  have hne : outer ≠ loc := by
    rintro rfl
    rw [isDir_iff.mpr hdir] at hfree
    cases hfree
  rw [Function.update_of_ne hne]
  exact hdir

theorem cwd_update (h : t.Free loc) (n : Node β) : Function.update t.node loc (some n) t.cwd = some .dir := by
  have hne : t.cwd ≠ loc := by
    intro heq
    have hfree := h.2.2
    rw [← heq, isDir_iff.mpr t.cwd_dir] at hfree
    cases hfree
  rw [Function.update_of_ne hne]
  exact t.cwd_dir

/-- Makes a directory or writes a file. -/
def put (t : Files β) (loc : Location) (n : Node β) (h : t.Free loc) : Files β :=
  { t with
    node := Function.update t.node loc (some n)
    touched := t.touched ++ [loc]
    root := root_update h n
    around := around_update h n
    cwd_dir := cwd_update h n }

theorem isDir_put {n : Node β} (h : t.Free loc) {other : Location} (hdir : t.isDir other = true) :
    (t.put loc n h).isDir other = true := by
  have hne : other ≠ loc := by
    rintro rfl
    rw [h.2.2] at hdir
    cases hdir
  rw [isDir_iff] at hdir ⊢
  exact (Function.update_of_ne hne _ _).trans hdir

/-! ## Following a path -/

/-- Follows components through directories that are there. -/
def walk (t : Files β) : Location → List Name → Option Location
  | loc, [] => some loc
  | loc, name :: names => if t.isDir (enter loc name) then t.walk (enter loc name) names else none

theorem walk_append (t : Files β) (loc : Location) (done names : List Name) :
    t.walk loc (done ++ names) = (t.walk loc done).bind fun there => t.walk there names := by
  induction done generalizing loc with
  | nil => rfl
  | cons name done ih =>
    rw [List.cons_append, walk, walk]
    split
    · exact ih _
    · rfl

variable {names : List Name}

/-- Walking is where the names lead. -/
theorem walk_eq {there : Location} (h : t.walk loc names = some there) : names.foldl enter loc = there := by
  induction names generalizing loc with
  | nil => exact Option.some.inj h
  | cons name names ih =>
    rw [walk] at h
    split at h
    · exact ih h
    · cases h

theorem isDir_walk {there : Location} (hloc : t.isDir loc = true) (h : t.walk loc names = some there) :
    t.isDir there = true := by
  induction names generalizing loc with
  | nil =>
    cases h
    exact hloc
  | cons name names ih =>
    rw [walk] at h
    split at h
    · next hdir => exact ih hdir h
    · cases h

/-- `mkdir`: trailing slashes do not count, and a name that is there already is reported as such. -/
def mkdir (t : Files β) : Location → List Name → Except Errno (Files β)
  | _, [] => .error .eexist
  | loc, name :: names =>
    if names.all List.isEmpty then
      match t.node (enter loc name) with
      | some _ => .error .eexist
      | none =>
        if h : t.Free (enter loc name) then
          if t.refuses (enter loc name) then .error .other else .ok (t.put (enter loc name) .dir h)
        else .error .other
    else if t.isDir (enter loc name) then t.mkdir (enter loc name) names
    else .error .other

/-- The place `open` would read or write. -/
def leaf (t : Files β) : Location → List Name → Option Location
  | _, [] => none
  | loc, [name] => if IsName name then some (name :: loc) else none
  | loc, name :: next :: names => if t.isDir (enter loc name) then t.leaf (enter loc name) (next :: names) else none

def read (t : Files β) (loc : Location) (names : List Name) : Option (List β) :=
  match t.leaf loc names with
  | none => none
  | some place =>
    match t.node place with
    | some (.file content) => if t.refuses place then none else some content
    | _ => none

/-- Opens a file for writing, emptied or new, and writes what there is room for. The flag says whether
it opened, the second whether everything was written. -/
def write (t : Files β) (loc : Location) (names : List Name) (content : List β) : Bool × Bool × Files β :=
  match t.leaf loc names with
  | none => (false, false, t)
  | some place =>
    if h : t.Free place then
      if t.refuses place then (false, false, t)
      else (true, decide (content.length ≤ t.room place), t.put place (.file (content.take (t.room place))) h)
    else (false, false, t)

/-- `mkdir` of each beginning of a path in turn, up to a refusal. -/
def makeAll (t : Files β) (start : Location) (done : List Name) : List Name → Bool × Files β
  | [] => (true, t)
  | name :: names =>
    match t.mkdir start (done ++ [name]) with
    | .ok t' => t'.makeAll start (done ++ [name]) names
    | .error .eexist => t.makeAll start (done ++ [name]) names
    | .error .other => (false, t)

/-- What is missing on the way along a path, up to a file or a place where nothing may be made. -/
def missing (t : Files β) : Location → List Name → List Location
  | _, [] => []
  | loc, name :: names =>
    match t.node (enter loc name) with
    | some .dir => t.missing (enter loc name) names
    | some (.file _) => []
    | none => if t.refuses (enter loc name) then [] else enter loc name :: t.missing (enter loc name) names

variable {place : Location}

/-- Along names that never lead back, what is missing lies below the start. -/
theorem suffix_of_mem_missing (hnames : ∀ name ∈ names, name ≠ ['.', '.']) (h : place ∈ t.missing loc names) :
    loc <:+ place := by
  induction names generalizing loc with
  | nil => cases h
  | cons name names ih =>
    have hdown := suffix_enter (hnames name List.mem_cons_self) loc
    have hrest : place ∈ t.missing (enter loc name) names → loc <:+ place := fun hin =>
      hdown.trans (ih (fun name hname => hnames name (List.mem_cons_of_mem _ hname)) hin)
    rw [missing] at h
    split at h
    · exact hrest h
    · cases h
    · split at h
      · cases h
      · rcases List.mem_cons.mp h with rfl | h
        · exact hdown
        · exact hrest h

/-- The same for the place of a file. -/
theorem suffix_of_leaf (hnames : ∀ name ∈ names, name ≠ ['.', '.']) (h : t.leaf loc names = some place) :
    loc <:+ place := by
  induction names generalizing loc with
  | nil => cases h
  | cons name names ih =>
    cases names with
    | nil =>
      rw [leaf] at h
      split at h
      · cases h
        exact List.suffix_cons name loc
      · cases h
    | cons next names =>
      rw [leaf] at h
      split at h
      · exact (suffix_enter (hnames name List.mem_cons_self) loc).trans
          (ih (fun name hname => hnames name (List.mem_cons_of_mem _ hname)) h)
      · cases h

/-! ## Trees that grow -/

/-- Directories stay directories and files stay files. -/
structure Grown (t t' : Files β) : Prop where
  cwd : t'.cwd = t.cwd
  dirs : ∀ loc, t.isDir loc = true → t'.isDir loc = true
  files : ∀ loc content, t.node loc = some (.file content) → ∃ content', t'.node loc = some (.file content')

theorem Grown.refl (t : Files β) : Grown t t := ⟨rfl, fun _ h => h, fun _ content h => ⟨content, h⟩⟩

theorem Grown.trans {t' t'' : Files β} (h : Grown t t') (h' : Grown t' t'') : Grown t t'' := by
  refine ⟨h'.cwd.trans h.cwd, fun loc hdir => h'.dirs loc (h.dirs loc hdir), fun loc content hfile => ?_⟩
  obtain ⟨content', hfile'⟩ := h.files loc content hfile
  exact h'.files loc content' hfile'

theorem grown_put_dir (h : t.Free loc) (hnew : t.node loc = none) : Grown t (t.put loc .dir h) := by
  refine ⟨rfl, fun _ => isDir_put h, fun other content hfile => ⟨content, ?_⟩⟩
  have hne : other ≠ loc := by
    rintro rfl
    rw [hnew] at hfile
    cases hfile
  exact (Function.update_of_ne hne _ _).trans hfile

theorem grown_put_file (h : t.Free loc) (content : List β) : Grown t (t.put loc (.file content) h) := by
  refine ⟨rfl, fun _ => isDir_put h, fun other old hfile => ?_⟩
  by_cases hloc : other = loc
  · subst hloc
    exact ⟨content, Function.update_self _ _ _⟩
  · exact ⟨old, (Function.update_of_ne hloc _ _).trans hfile⟩

variable {t' : Files β}

theorem mkdir_spec (h : t.mkdir loc names = .ok t') :
    ∃ place, ∃ hfree : t.Free place, t.node place = none ∧ t' = t.put place .dir hfree := by
  induction names generalizing loc with
  | nil => cases h
  | cons name names ih =>
    rw [mkdir] at h
    split at h
    · split at h
      · cases h
      · next hnew =>
        split at h
        · next hfree =>
          split at h
          · cases h
          · cases h
            exact ⟨enter loc name, hfree, hnew, rfl⟩
        · cases h
    · split at h
      · exact ih h
      · cases h

theorem grown_makeAll (t : Files β) (start : Location) (done names : List Name) :
    Grown t (t.makeAll start done names).2 := by
  induction names generalizing t done with
  | nil => exact Grown.refl t
  | cons name names ih =>
    rw [makeAll]
    split
    · next t' hmade =>
      obtain ⟨place, hfree, hnew, rfl⟩ := mkdir_spec hmade
      exact (grown_put_dir hfree hnew).trans (ih _ _)
    · exact ih t _
    · exact Grown.refl t

theorem grown_write (t : Files β) (loc : Location) (names : List Name) (content : List β) :
    Grown t (t.write loc names content).2.2 := by
  unfold write
  split
  · exact Grown.refl t
  · split
    · next hfree =>
      split
      · exact Grown.refl t
      · exact grown_put_file hfree _
    · exact Grown.refl t

variable {content : List β}

/-- Only the place of the file is touched. -/
theorem write_touched (h : place ∈ (t.write loc names content).2.2.touched) :
    place ∈ t.touched ∨ t.leaf loc names = some place := by
  unfold write at h
  split at h
  · exact .inl h
  · next there hleaf =>
    split at h
    · split at h
      · exact .inl h
      · rcases List.mem_append.mp h with h | h
        · exact .inl h
        · rw [List.mem_singleton.mp h]
          exact .inr hleaf
    · exact .inl h

theorem touched_of_write (h : place ∈ t.touched) : place ∈ (t.write loc names content).2.2.touched := by
  unfold write
  split
  · exact h
  · split
    · split
      · exact h
      · exact List.mem_append_left _ h
    · exact h

/-- How far a path leads once its directories have been made: all the way, or to a file. -/
inductive Settled (t : Files β) (start : Location) (names : List Name) : Prop
  | through (h : t.walk start names = some (names.foldl enter start))
  | blocked (done rest : List Name) (name : Name) (there : Location) (content : List β)
      (path : names = done ++ name :: rest) (walked : t.walk start done = some there)
      (file : t.node (enter there name) = some (.file content))

theorem Grown.walk (h : Grown t t') {there : Location} (hwalk : t.walk loc names = some there) :
    t'.walk loc names = some there := by
  induction names generalizing loc with
  | nil => exact hwalk
  | cons name names ih =>
    rw [Files.walk] at hwalk ⊢
    split at hwalk
    · next hdir =>
      rw [if_pos (h.dirs _ hdir)]
      exact ih hwalk
    · cases hwalk

theorem Settled.grown (h : Grown t t') {start : Location} (hsettled : Settled t start names) :
    Settled t' start names := by
  cases hsettled with
  | through hwalk => exact .through (h.walk hwalk)
  | blocked done rest name there content path walked file =>
    obtain ⟨content', hfile⟩ := h.files _ content file
    exact .blocked done rest name there content' path (h.walk walked) hfile

theorem mkdir_slashes (hnames : names.all List.isEmpty = true) (hloc : t.isDir loc = true) :
    t.mkdir loc names = .error .eexist := by
  cases names with
  | nil => rfl
  | cons name names =>
    rw [List.all_cons, Bool.and_eq_true] at hnames
    obtain ⟨hname, hnames⟩ := hnames
    have hstay : enter loc name = loc := by simp [enter, List.isEmpty_iff.mp hname]
    rw [mkdir, if_pos hnames, hstay, isDir_iff.mp hloc]

variable {done : List Name} {made : List Location} {t₀ : Files β}

theorem mkdir_append {start there : Location} (hstart : t.isDir start = true) (hwalk : t.walk start done = some there)
    (names : List Name) : t.mkdir start (done ++ names) = t.mkdir there names := by
  induction done generalizing start with
  | nil =>
    cases hwalk
    rfl
  | cons name done ih =>
    have hthere := isDir_walk hstart hwalk
    rw [walk] at hwalk
    split at hwalk
    · next hdir =>
      rw [List.cons_append, mkdir]
      split
      · next hall =>
        -- nothing but slashes follows, so the path ends in a directory that is there
        rw [List.all_append, Bool.and_eq_true] at hall
        rw [isDir_iff.mp hdir, mkdir_slashes hall.2 hthere]
      · exact ih hdir hwalk
    · cases hwalk

/-- Past a file no directory is made. -/
theorem mkdir_past_file {start there : Location} (hstart : t.isDir start = true)
    (hwalk : t.walk start done = some there) (hfile : t.node (enter there name) = some (.file content))
    (names : List Name) : ∃ e, t.mkdir start (done ++ name :: names) = .error e := by
  rw [mkdir_append hstart hwalk, mkdir, hfile]
  split
  · exact ⟨.eexist, rfl⟩
  · have hnot : t.isDir (enter there name) = false := by simp [isDir, hfile]
    rw [hnot]
    exact ⟨.other, rfl⟩

theorem makeAll_past_file {start there : Location} (hstart : t.isDir start = true)
    (hwalk : t.walk start done = some there) (hfile : t.node (enter there name) = some (.file content))
    (past names : List Name) : (t.makeAll start (done ++ name :: past) names).2 = t := by
  induction names generalizing past with
  | nil => rfl
  | cons next names ih =>
    have hpast : done ++ name :: past ++ [next] = done ++ name :: (past ++ [next]) := by simp
    obtain ⟨e, he⟩ := mkdir_past_file hstart hwalk hfile (past ++ [next])
    rw [makeAll, hpast, he]
    cases e with
    | eexist => exact ih (past ++ [next])
    | other => rfl

/-! ## What making a path makes -/

/-- `t` is `t₀` with directories made at the places `made`. -/
structure Made (t₀ t : Files β) (made : List Location) : Prop where
  node : ∀ loc, t.node loc = if loc ∈ made then some .dir else t₀.node loc
  fresh : ∀ loc ∈ made, t₀.node loc = none ∧ t₀.refuses loc = false
  refuses : t.refuses = t₀.refuses
  touched : ∀ loc, loc ∈ t.touched ↔ loc ∈ t₀.touched ∨ loc ∈ made

theorem Made.start (t : Files β) : Made t t [] :=
  ⟨fun loc => by simp, fun _ h => (List.not_mem_nil h).elim, rfl, fun loc => by simp⟩

theorem Made.put (h : Made t₀ t made) (hfree : t.Free loc) (hnew : t.node loc = none)
    (hallowed : t.refuses loc = false) : Made t₀ (t.put loc .dir hfree) (loc :: made) := by
  have hold : t₀.node loc = none := by
    rw [h.node] at hnew
    split at hnew
    · cases hnew
    · exact hnew
  refine ⟨fun other => ?_, fun other hin => ?_, h.refuses, fun other => ?_⟩
  · show Function.update t.node loc (some .dir) other = _
    by_cases hloc : other = loc
    · subst hloc
      simp
    · rw [Function.update_of_ne hloc, h.node]
      simp [hloc]
  · rcases List.mem_cons.mp hin with rfl | hin
    · exact ⟨hold, h.refuses ▸ hallowed⟩
    · exact h.fresh other hin
  · show other ∈ t.touched ++ [loc] ↔ _
    rw [List.mem_append, h.touched, List.mem_singleton, List.mem_cons, or_assoc, or_comm (a := other = loc)]

/-- A place that is there is on no list of missing places. -/
theorem Made.there (h : Made t₀ t made) (hdir : t.node loc = some .dir) (names : List Name) (before : Location)
    (name : Name) (hloc : loc = enter before name) (place : Location) :
    (place ∈ t.touched ∨ place ∈ t₀.missing before (name :: names)) ↔
      (place ∈ t.touched ∨ place ∈ t₀.missing loc names) := by
  subst hloc
  rw [missing]
  by_cases hmade : enter before name ∈ made
  · obtain ⟨hold, hallowed⟩ := h.fresh _ hmade
    rw [hold, hallowed]
    have hin : enter before name ∈ t.touched := (h.touched _).mpr (.inr hmade)
    constructor
    · rintro (hplace | hplace)
      · exact .inl hplace
      · rcases List.mem_cons.mp hplace with rfl | hplace
        · exact .inl hin
        · exact .inr hplace
    · rintro (hplace | hplace)
      · exact .inl hplace
      · exact .inr (List.mem_cons_of_mem _ hplace)
  · rw [h.node, if_neg hmade] at hdir
    rw [hdir]

theorem free_of_missing (hloc : t.isDir loc = true) (hnew : t.node (enter loc name) = none) :
    t.Free (enter loc name) := by
  have hnot : t.isDir (enter loc name) = false := by simp [isDir, hnew]
  have hname : IsName name := by
    by_contra hname
    rw [isDir_enter hloc hname] at hnot
    cases hnot
  rw [enter_of_isName hname] at hnot ⊢
  exact ⟨List.cons_ne_nil _ _, hloc, hnot⟩

theorem mkdir_there {start there : Location} (hstart : t.isDir start = true) (hwalk : t.walk start done = some there)
    {node : Node β} (hnode : t.node (enter there name) = some node) :
    t.mkdir start (done ++ [name]) = .error .eexist := by
  rw [mkdir_append hstart hwalk, mkdir, hnode]
  rfl

theorem mkdir_missing {start there : Location} (hstart : t.isDir start = true) (hwalk : t.walk start done = some there)
    (hnode : t.node (enter there name) = none) (hfree : t.Free (enter there name)) :
    t.mkdir start (done ++ [name]) =
      if t.refuses (enter there name) then .error .other else .ok (t.put (enter there name) .dir hfree) := by
  rw [mkdir_append hstart hwalk, mkdir, hnode]
  exact dif_pos hfree

theorem walk_snoc {start there : Location} (hwalk : t.walk start done = some there)
    (hdir : t.isDir (enter there name) = true) : t.walk start (done ++ [name]) = some (enter there name) := by
  rw [walk_append, hwalk, Option.bind_some, walk, if_pos hdir, walk]

theorem makeAll_from (hmade : Made t₀ t made) {start there : Location} (hstart : t.isDir start = true)
    (hwalk : t.walk start done = some there) (names : List Name) (place : Location) :
    place ∈ (t.makeAll start done names).2.touched ↔ place ∈ t.touched ∨ place ∈ t₀.missing there names := by
  induction names generalizing t made done there with
  | nil => simp [makeAll, missing]
  | cons name names ih =>
    have hthere := isDir_walk hstart hwalk
    cases hnode : t.node (enter there name) with
    | some node =>
      cases node with
      | dir =>
        have hdir : t.isDir (enter there name) = true := isDir_iff.mpr hnode
        rw [makeAll, mkdir_there hstart hwalk hnode]
        exact (ih hmade hstart (walk_snoc hwalk hdir)).trans (hmade.there hnode names there name rfl place).symm
      | file content =>
        have hold : t₀.node (enter there name) = some (.file content) := by
          rw [hmade.node] at hnode
          split at hnode
          · cases hnode
          · exact hnode
        rw [makeAll, mkdir_there hstart hwalk hnode]
        have hpast := makeAll_past_file hstart hwalk hnode [] names
        rw [show (t.makeAll start (done ++ [name]) names).2 = t from hpast, missing, hold]
        simp
    | none =>
      have hold : t₀.node (enter there name) = none := by
        rw [hmade.node] at hnode
        split at hnode
        · cases hnode
        · exact hnode
      have hfree := free_of_missing hthere hnode
      rw [makeAll, mkdir_missing hstart hwalk hnode hfree, missing, hold, ← hmade.refuses]
      cases hrefuses : t.refuses (enter there name) with
      | true => simp
      | false =>
        have hput := hmade.put hfree hnode hrefuses
        have hdir : (t.put (enter there name) .dir hfree).isDir (enter there name) = true :=
          isDir_iff.mpr (Function.update_self _ _ _)
        have hdone := (grown_put_dir hfree hnode).walk hwalk
        refine (ih hput (isDir_put hfree hstart) (walk_snoc hdone hdir)).trans ?_
        simp only [put, List.mem_append, List.mem_cons, List.not_mem_nil, Bool.false_eq_true, if_false, or_assoc,
          false_or]

/-- Making every directory along a path touches exactly what was missing on the way. -/
theorem makeAll_touched {start : Location} (hstart : t.isDir start = true) (names : List Name) (place : Location) :
    place ∈ (t.makeAll start [] names).2.touched ↔ place ∈ t.touched ∨ place ∈ t.missing start names :=
  makeAll_from (Made.start t) hstart rfl names place

theorem makeAll_settled {start there : Location} (hstart : t.isDir start = true)
    (hwalk : t.walk start done = some there) (hok : (t.makeAll start done names).1 = true) :
    Settled (t.makeAll start done names).2 start (done ++ names) := by
  induction names generalizing t done there with
  | nil =>
    rw [List.append_nil]
    exact .through (hwalk.trans (congrArg some (walk_eq hwalk).symm))
  | cons name names ih =>
    have hthere := isDir_walk hstart hwalk
    have hpath : done ++ name :: names = done ++ [name] ++ names := by simp
    rw [makeAll] at hok ⊢
    cases hnode : t.node (enter there name) with
    | some node =>
      rw [mkdir_there hstart hwalk hnode] at hok ⊢
      cases node with
      | dir =>
        rw [hpath]
        exact ih hstart (walk_snoc hwalk (isDir_iff.mpr hnode)) hok
      | file content =>
        refine .grown (grown_makeAll t start (done ++ [name]) names) ?_
        exact .blocked done names name there content rfl hwalk hnode
    | none =>
      have hfree := free_of_missing hthere hnode
      rw [mkdir_missing hstart hwalk hnode hfree] at hok ⊢
      cases hrefuses : t.refuses (enter there name) with
      | true => simp [hrefuses] at hok
      | false =>
        have hdir : (t.put (enter there name) .dir hfree).isDir (enter there name) = true :=
          isDir_iff.mpr (Function.update_self _ _ _)
        rw [hrefuses] at hok
        rw [hpath]
        exact ih (isDir_put hfree hstart) (walk_snoc ((grown_put_dir hfree hnode).walk hwalk) hdir) hok

/-! ## Paths that begin with a settled one -/

theorem missing_append {start there : Location} (hwalk : t.walk start done = some there) (names : List Name) :
    t.missing start (done ++ names) = t.missing there names := by
  induction done generalizing start with
  | nil =>
    cases hwalk
    rfl
  | cons name done ih =>
    rw [walk] at hwalk
    split at hwalk
    · next hdir =>
      rw [List.cons_append, missing, isDir_iff.mp hdir]
      exact ih hwalk
    · cases hwalk

theorem leaf_append {start there : Location} (hwalk : t.walk start done = some there) (hnames : names ≠ []) :
    t.leaf start (done ++ names) = t.leaf there names := by
  induction done generalizing start with
  | nil =>
    cases hwalk
    rfl
  | cons name done ih =>
    rw [walk] at hwalk
    split at hwalk
    · next hdir =>
      obtain ⟨next, rest, hnext⟩ := List.exists_cons_of_ne_nil
        (List.append_ne_nil_of_right_ne_nil done hnames)
      have hleaf := ih hwalk
      rw [hnext] at hleaf
      rw [List.cons_append, hnext, leaf, if_pos hdir, hleaf]
    · cases hwalk

/-- Past a settled path whatever is missing lies below it, as long as no name leads back. -/
theorem Settled.missing {start : Location} (h : Settled t start done) (hnames : ∀ name ∈ names, name ≠ ['.', '.'])
    (hplace : place ∈ t.missing start (done ++ names)) : done.foldl enter start <:+ place := by
  cases h with
  | through hwalk =>
    rw [missing_append hwalk] at hplace
    exact suffix_of_mem_missing hnames hplace
  | blocked before rest name there content path walked file =>
    rw [path, List.append_assoc, missing_append walked, List.cons_append, Files.missing, file] at hplace
    cases hplace

theorem Settled.leaf {start : Location} (h : Settled t start done) (hnames : ∀ name ∈ names, name ≠ ['.', '.'])
    (hnonempty : names ≠ []) (hplace : t.leaf start (done ++ names) = some place) :
    done.foldl enter start <:+ place := by
  cases h with
  | through hwalk =>
    rw [leaf_append hwalk hnonempty] at hplace
    exact suffix_of_leaf hnames hplace
  | blocked before rest name there content path walked file =>
    have hnot : t.isDir (enter there name) = false := by simp [isDir, file]
    obtain ⟨next, names, rfl⟩ := List.exists_cons_of_ne_nil hnonempty
    rw [path, List.append_assoc, leaf_append walked (by simp)] at hplace
    cases rest <;> simp [Files.leaf, hnot] at hplace

/-- Past a file only slashes are made without a refusal. -/
theorem makeAll_past_file_ok {start there : Location} (hstart : t.isDir start = true)
    (hwalk : t.walk start done = some there) (hfile : t.node (enter there name) = some (.file content))
    (past names : List Name) (hok : (t.makeAll start (done ++ name :: past) names).1 = true) :
    ∀ next ∈ names, next = [] := by
  induction names generalizing past with
  | nil => exact fun _ h => (List.not_mem_nil h).elim
  | cons next names ih =>
    have hnot : t.isDir (enter there name) = false := by simp [isDir, hfile]
    have hpast : done ++ name :: past ++ [next] = done ++ name :: (past ++ [next]) := by simp
    rw [makeAll, hpast, mkdir_append hstart hwalk, mkdir, hfile, hnot] at hok
    by_cases hall : (past ++ [next]).all List.isEmpty = true
    · rw [if_pos hall] at hok
      have hnext : next = [] := by simpa using (List.all_eq_true.1 hall) next (by simp)
      intro other hother
      rcases List.mem_cons.1 hother with rfl | hother
      · exact hnext
      · exact ih (past ++ [next]) hok other hother
    · rw [if_neg hall] at hok
      simp at hok

/-- A path that was made and leads to a directory can be walked. -/
theorem makeAll_walk {start there : Location} (hstart : t.isDir start = true) (hwalk : t.walk start done = some there)
    (hok : (t.makeAll start done names).1 = true)
    (hdir : (t.makeAll start done names).2.isDir (names.foldl enter there) = true) :
    (t.makeAll start done names).2.walk start (done ++ names) = some (names.foldl enter there) := by
  induction names generalizing t done there with
  | nil => rwa [List.append_nil]
  | cons name names ih =>
    have hthere := isDir_walk hstart hwalk
    have hpath : done ++ name :: names = done ++ [name] ++ names := by simp
    rw [makeAll] at hok hdir ⊢
    cases hnode : t.node (enter there name) with
    | some node =>
      rw [mkdir_there hstart hwalk hnode] at hok hdir ⊢
      cases node with
      | dir =>
        rw [hpath]
        exact ih hstart (walk_snoc hwalk (isDir_iff.mpr hnode)) hok hdir
      | file content =>
        -- only slashes follow, so that the path leads to the file
        have hslashes := makeAll_past_file_ok hstart hwalk hnode [] names hok
        have hstay : names.foldl enter (enter there name) = enter there name := by
          clear hok hdir ih hpath
          induction names with
          | nil => rfl
          | cons next names ih =>
            have hnext : enter (enter there name) next = enter there name := by
              simp [enter, hslashes next List.mem_cons_self]
            rw [List.foldl_cons, hnext]
            exact ih fun other hother => hslashes other (List.mem_cons_of_mem _ hother)
        have hsame := makeAll_past_file hstart hwalk hnode [] names
        rw [show (t.makeAll start (done ++ [name]) names).2 = t from hsame, List.foldl_cons, hstay, isDir_iff, hnode] at hdir
        cases hdir
    | none =>
      have hfree := free_of_missing hthere hnode
      rw [mkdir_missing hstart hwalk hnode hfree] at hok hdir ⊢
      cases hrefuses : t.refuses (enter there name) with
      | true => simp [hrefuses] at hok
      | false =>
        have hput : (t.put (enter there name) .dir hfree).isDir (enter there name) = true :=
          isDir_iff.mpr (Function.update_self _ _ _)
        rw [hrefuses] at hok hdir
        rw [hpath]
        exact ih (isDir_put hfree hstart) (walk_snoc ((grown_put_dir hfree hnode).walk hwalk) hput) hok hdir

/-! ## Files that stay as they are -/

/-- The files are the same but at some places, and the system decides as before. -/
structure SameFiles (t t' : Files β) (changed : Location → Prop) : Prop where
  refuses : t'.refuses = t.refuses
  room : t'.room = t.room
  files : ∀ loc, ¬ changed loc → ∀ content, t'.node loc = some (.file content) ↔ t.node loc = some (.file content)

theorem SameFiles.refl (t : Files β) (changed : Location → Prop) : SameFiles t t changed :=
  ⟨rfl, rfl, fun _ _ _ => Iff.rfl⟩

theorem SameFiles.trans {t'' : Files β} {changed : Location → Prop} (h : SameFiles t t' changed)
    (h' : SameFiles t' t'' changed) : SameFiles t t'' changed :=
  ⟨h'.refuses.trans h.refuses, h'.room.trans h.room, fun loc hloc content =>
    (h'.files loc hloc content).trans (h.files loc hloc content)⟩

theorem SameFiles.mono {changed changed' : Location → Prop} (h : SameFiles t t' changed)
    (hsub : ∀ loc, changed loc → changed' loc) : SameFiles t t' changed' :=
  ⟨h.refuses, h.room, fun loc hloc => h.files loc fun hc => hloc (hsub loc hc)⟩

theorem sameFiles_put_dir (h : t.Free loc) (hnew : t.node loc = none) :
    SameFiles t (t.put loc .dir h) fun _ => False := by
  refine ⟨rfl, rfl, fun other _ content => ?_⟩
  show Function.update t.node loc (some .dir) other = _ ↔ _
  by_cases hloc : other = loc
  · subst hloc
    rw [Function.update_self, hnew]
    exact iff_of_false nofun nofun
  · rw [Function.update_of_ne hloc]

theorem sameFiles_makeAll (t : Files β) (start : Location) (done names : List Name) :
    SameFiles t (t.makeAll start done names).2 fun _ => False := by
  induction names generalizing t done with
  | nil => exact SameFiles.refl t _
  | cons name names ih =>
    rw [makeAll]
    split
    · next t' hmade =>
      obtain ⟨place, hfree, hnew, rfl⟩ := mkdir_spec hmade
      exact (sameFiles_put_dir hfree hnew).trans (ih _ _)
    · exact ih t _
    · exact SameFiles.refl t _

theorem leaf_eq (h : t.leaf loc names = some place) : place = names.foldl enter loc := by
  induction names generalizing loc with
  | nil => cases h
  | cons name names ih =>
    cases names with
    | nil =>
      rw [leaf] at h
      split at h
      · next hname =>
        cases h
        exact (enter_of_isName hname loc).symm
      · cases h
    | cons next names =>
      rw [leaf] at h
      split at h
      · exact ih h
      · cases h

theorem sameFiles_write (t : Files β) (loc : Location) (names : List Name) (content : List β) :
    SameFiles t (t.write loc names content).2.2 (· = names.foldl enter loc) := by
  unfold write
  split
  · exact SameFiles.refl t _
  · next place hleaf =>
    obtain rfl := leaf_eq hleaf
    split
    · split
      · exact SameFiles.refl t _
      · refine ⟨rfl, rfl, fun other hne _ => ?_⟩
        show Function.update t.node _ _ other = _ ↔ _
        rw [Function.update_of_ne hne]
    · exact SameFiles.refl t _

theorem write_opened (h : (t.write loc names content).1 = true) :
    ∃ hfree : t.Free (names.foldl enter loc),
      t.write loc names content = (true, decide (content.length ≤ t.room (names.foldl enter loc)),
        t.put (names.foldl enter loc) (.file (content.take (t.room (names.foldl enter loc)))) hfree) := by
  unfold write at h ⊢
  split at h
  · cases h
  · next place hleaf =>
    obtain rfl := leaf_eq hleaf
    split at h
    · next hfree =>
      split at h
      · cases h
      · next hallowed => exact ⟨hfree, by simp [hfree, hallowed]⟩
    · cases h

/-- A file that was opened and written in full holds what was to be written. -/
theorem node_of_write (hopen : (t.write loc names content).1 = true)
    (hroom : content.length ≤ t.room (names.foldl enter loc)) :
    (t.write loc names content).2.2.node (names.foldl enter loc) = some (.file content) := by
  obtain ⟨hfree, hwrite⟩ := write_opened hopen
  rw [hwrite]
  show Function.update t.node _ _ _ = _
  rw [Function.update_self, List.take_of_length_le hroom]

theorem length_le_of_write (hopen : (t.write loc names content).1 = true)
    (hwhole : (t.write loc names content).2.1 = true) : content.length ≤ t.room (names.foldl enter loc) := by
  obtain ⟨hfree, hwrite⟩ := write_opened hopen
  rw [hwrite] at hwhole
  exact of_decide_eq_true hwhole

theorem write_opens (hleaf : t.leaf loc names = some place) (hfree : t.Free place)
    (hallowed : t.refuses place = false) : (t.write loc names content).1 = true := by
  unfold write
  simp [hleaf, hfree, hallowed]

/-- What was not opened is as it was. -/
theorem write_closed (h : (t.write loc names content).1 = false) : (t.write loc names content).2.2 = t := by
  unfold write at h ⊢
  split at h
  · rfl
  · split at h
    · split at h
      · simp_all
      · cases h
    · simp_all

end Files

end AugmentedInsanity.FileTree
