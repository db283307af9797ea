/-
Extraction of an `.augins` archive (`extract.cpp`). File entries pass a path-traversal guard before
they are written; directory entries are made before it. So everything made or written lies inside the
destination exactly when the directories above it are there already and no directory entry leads to
something missing elsewhere (`extractAuginsZip_inside_iff`).
-/
import AugmentedInsanity.Lib.FileTree
import Mathlib.Algebra.Ring.Nat
import Mathlib.Data.List.Infix

namespace AugmentedInsanity.Augins.Extract

open FileTree

abbrev Path := List Char
abbrev Disk := Files UInt8

/-! ## System calls -/

/-- Where a path starts: at the root or in the current directory. -/
def start (fs : Disk) (path : Path) : Location := if path.head? = some '/' then [] else fs.cwd

def mkdir (fs : Disk) (path : Path) : Except Errno Disk := fs.mkdir (start fs path) (components path)

/-- What a path names once `.` and `..` are resolved. -/
def resolve (fs : Disk) (path : Path) : Location := (components path).foldl enter (start fs path)

/-! ## Helpers -/

/-- The loop of `mkdir_p` over the positions `1 ≤ i ≤ path.size()`. -/
def mkdirLoop (path : Path) : List ℕ → Disk → Bool × Disk
  | [], fs => (true, fs)
  | i :: positions, fs =>
    if i = path.length ∨ path[i]? = some '/' then
      let seg := path.take i
      if seg.isEmpty then mkdirLoop path positions fs
      else
        match mkdir fs seg with
        | .ok fs' => mkdirLoop path positions fs'
        | .error .eexist => mkdirLoop path positions fs
        | .error .other => (false, fs)
    else mkdirLoop path positions fs

def mkdirP (fs : Disk) (path : Path) : Bool × Disk := mkdirLoop path (List.range' 1 path.length) fs

def readFileBytes (fs : Disk) (path : Path) : Option (List UInt8) := fs.read (start fs path) (components path)

def writeFile (fs : Disk) (path : Path) (data : List UInt8) : Bool × Disk :=
  let parents := match upToLastSlash path with
    | none => (true, fs)
    | some parent => mkdirP fs parent
  if parents.1 then
    let written := parents.2.write (start fs path) (components path) data
    (written.1 && written.2.1, written.2.2)
  else (false, parents.2)

def isDigit (b : UInt8) : Bool := 48 ≤ b && b ≤ 57

def isSpace (b : UInt8) : Bool := b = 32 || (9 ≤ b && b ≤ 13)

/-- `f >> v` for a `size_t`: blanks, a sign, digits. A number that does not fit fails, a negative one
wraps. -/
def extractSize (bytes : List UInt8) : Option ℕ :=
  let unsigned (rest : List UInt8) : Option ℕ :=
    let digits := rest.takeWhile isDigit
    let v := digits.foldl (fun v b => 10 * v + (b.toNat - 48)) 0
    if digits = [] ∨ 2 ^ 64 ≤ v then none else some v
  match bytes.dropWhile isSpace with
  | 43 :: rest => unsigned rest
  | 45 :: rest => (unsigned rest).map fun v => (2 ^ 64 - v) % 2 ^ 64
  | rest => unsigned rest

def stampPath (dir : Path) : Path := dir ++ "/.size".toList

def readSizeStamp (fs : Disk) (dir : Path) : Option ℕ := (readFileBytes fs (stampPath dir)).bind extractSize

def sizeDigits (size : ℕ) : List UInt8 := (Nat.toDigits 10 size).map fun c => UInt8.ofNat c.toNat

def writeSizeStamp (fs : Disk) (dir : Path) (size : ℕ) : Disk :=
  (fs.write (start fs (stampPath dir)) (components (stampPath dir)) (sizeDigits size)).2.2

/-! ## The extraction -/

/-- What miniz reports of an entry and gives for its contents; `none` where it fails. -/
structure Entry where
  filename : Path
  isDirectory : Bool
  contents : Option (List UInt8)

def suspicious (name : Path) : Bool := decide (['.', '.'] <:+: name) || decide (name.head? = some '/')

def inDest (dest name : Path) : Path := dest ++ '/' :: name

/-- One turn of the loop over the entries; `none` is an entry that cannot be read. The flag says
whether the loop goes on. -/
def extractEntry (dest : Path) (fs : Disk) : Option Entry → Bool × Disk
  | none => (true, fs)
  | some entry =>
    -- a directory entry is made before the guard
    if entry.isDirectory then (true, (mkdirP fs (inDest dest entry.filename)).2)
    else if suspicious entry.filename then (true, fs)
    else
      match entry.contents with
      | none => (false, fs)
      | some data => writeFile fs (inDest dest entry.filename) data

def extractEntries (dest : Path) : List (Option Entry) → Disk → Bool × Disk
  | [], fs => (true, fs)
  | entry :: entries, fs =>
    if (extractEntry dest fs entry).1 then extractEntries dest entries (extractEntry dest fs entry).2
    else (false, (extractEntry dest fs entry).2)

def extractAll (reader : List UInt8 → Option (List (Option Entry))) (fs : Disk) (dest : Path)
    (blob : List UInt8) : Bool × Disk :=
  if (mkdirP fs dest).1 then
    match reader blob with
    | none => (false, (mkdirP fs dest).2)
    | some entries =>
      let extracted := extractEntries dest entries (mkdirP fs dest).2
      if extracted.1 then (true, writeSizeStamp extracted.2 dest blob.length) else extracted
  else mkdirP fs dest

/-- `extract_augins_zip`: the result, `out_dir` and the files after it. `reader` is miniz: the entries
of an archive, if it can be opened. -/
def extractAuginsZip (reader : List UInt8 → Option (List (Option Entry))) (fs : Disk)
    (auginsZipPath stagingSubdir cacheRoot : Path) : Bool × Path × Disk :=
  let dest := cacheRoot ++ '/' :: stagingSubdir
  match readFileBytes fs auginsZipPath with
  | none => (false, dest, fs)
  | some blob =>
    if readSizeStamp fs dest = some blob.length then (true, dest, fs)
    else ((extractAll reader fs dest blob).1, dest, (extractAll reader fs dest blob).2)

/-! ## `mkdir_p` component by component -/

theorem start_eq {fs fs' : Disk} (h : Files.Grown fs fs') (path : Path) : start fs' path = start fs path := by
  unfold start
  rw [h.cwd]

theorem start_append (fs : Disk) {path : Path} (h : path ≠ []) (rest : Path) :
    start fs (path ++ rest) = start fs path := by
  cases path with
  | nil => exact (h rfl).elim
  | cons c path => rfl

theorem isDir_start (fs : Disk) (path : Path) : fs.isDir (start fs path) = true := by
  unfold start
  split
  · exact Files.isDir_iff.mpr fs.root
  · exact Files.isDir_iff.mpr fs.cwd_dir

/-- The calls on beginnings of a path all start where the path does, whatever has been made before. -/
structure Starts (path : Path) (fs : Disk) (origin : Location) : Prop where
  start : ∀ seg, seg ≠ [] → seg <+: path → ∀ fs', Files.Grown fs fs' → start fs' seg = origin

variable {origin : Location}

theorem Starts.grown {path : Path} {fs fs' : Disk} (h : Starts path fs origin) (hgrown : Files.Grown fs fs') :
    Starts path fs' origin :=
  ⟨fun seg hseg hbegins fs'' hgrown' => h.start seg hseg hbegins fs'' (hgrown.trans hgrown')⟩

theorem starts (fs : Disk) (path : Path) : Starts path fs (start fs path) := by
  refine ⟨fun seg hseg hbegins fs' hgrown => ?_⟩
  obtain ⟨rest, rfl⟩ := hbegins
  rw [start_eq hgrown, start_append fs hseg]

variable {fs : Disk}

theorem mkdirLoop_turn {path seg rest : Path} {i : ℕ} (hstarts : Starts path fs origin) (hpath : path = seg ++ rest)
    (hi : i = seg.length) (hseg : seg ≠ []) (hturn : i = path.length ∨ path[i]? = some '/') (positions : List ℕ) :
    mkdirLoop path (i :: positions) fs =
      match fs.mkdir origin (components seg) with
      | .ok fs' => mkdirLoop path positions fs'
      | .error .eexist => mkdirLoop path positions fs
      | .error .other => (false, fs) := by
  have htake : path.take i = seg := by rw [hpath, hi, List.take_left]
  have hnonempty : seg.isEmpty = false := by simp [hseg]
  have hstart := hstarts.start seg hseg ⟨rest, hpath.symm⟩ fs (Files.Grown.refl fs)
  rw [mkdirLoop, if_pos hturn]
  simp only [htake, hnonempty, mkdir, hstart]
  rfl

theorem mkdirLoop_eq {path base current rest : Path} {done : List Name} {i : ℕ} (hstarts : Starts path fs origin)
    (hpath : path = base ++ current ++ rest) (hi : i = (base ++ current).length)
    (hbase : ∀ more, components (base ++ more) = done ++ components more) (hcurrent : '/' ∉ current)
    (hseen : base ++ current ≠ []) :
    mkdirLoop path (List.range' i (rest.length + 1)) fs = fs.makeAll origin done (components (current ++ rest)) := by
  have hseg : components (base ++ current) = done ++ [current] := by
    rw [hbase, components_of_not_mem hcurrent]
  induction rest generalizing base current done fs i with
  | nil =>
    have hend : i = path.length := by rw [hi, hpath, List.append_nil]
    rw [List.append_nil, components_of_not_mem hcurrent, List.length_nil, List.range'_succ,
      mkdirLoop_turn hstarts hpath hi hseen (.inl hend), hseg, Files.makeAll]
    cases fs.mkdir origin (done ++ [current]) with
    | ok fs' => rfl
    | error e => cases e <;> rfl
  | cons c rest ih =>
    have hat : path[i]? = some c := by
      rw [hpath, hi, List.getElem?_append_right (Nat.le_refl _), Nat.sub_self]
      rfl
    have hnotEnd : i ≠ path.length := by
      have hlonger : path.length = (base ++ current).length + (rest.length + 1) := by
        rw [hpath, List.length_append, List.length_cons]
      omega
    rw [List.length_cons, List.range'_succ]
    by_cases hc : c = '/'
    · subst hc
      have hpath' : path = base ++ current ++ ['/'] ++ [] ++ rest := by simp [hpath]
      have hi' : i + 1 = (base ++ current ++ ['/'] ++ []).length := by simp [hi, Nat.add_assoc]
      have hbase' : ∀ more, components (base ++ current ++ ['/'] ++ more) = done ++ [current] ++ components more := by
        intro more
        rw [List.append_assoc, List.append_assoc, hbase, List.singleton_append, components_append_slash,
          components_of_not_mem hcurrent, List.append_assoc]
      have hseen' : base ++ current ++ ['/'] ++ [] ≠ [] := by simp
      rw [mkdirLoop_turn hstarts hpath hi hseen (.inr hat), hseg, components_append_slash,
        components_of_not_mem hcurrent, List.singleton_append, Files.makeAll]
      cases hmade : fs.mkdir origin (done ++ [current]) with
      | ok fs' =>
        obtain ⟨place, hfree, hnew, rfl⟩ := Files.mkdir_spec hmade
        exact ih (hstarts.grown (Files.grown_put_dir hfree hnew)) hpath' hi' hbase' List.not_mem_nil hseen' (hbase' [])
      | error e =>
        cases e with
        | eexist => exact ih hstarts hpath' hi' hbase' List.not_mem_nil hseen' (hbase' [])
        | other => rfl
    · have hpath' : path = base ++ (current ++ [c]) ++ rest := by simp [hpath]
      have hi' : i + 1 = (base ++ (current ++ [c])).length := by simp [hi, Nat.add_assoc]
      have hcurrent' : '/' ∉ current ++ [c] := by simp [hcurrent, Ne.symm hc]
      have hnext := ih hstarts hpath' hi' hbase hcurrent' (by simp) (by
        rw [hbase, components_of_not_mem hcurrent'])
      have hturn : ¬ (i = path.length ∨ path[i]? = some '/') := by
        rw [hat]
        simp [hnotEnd, hc]
      rw [mkdirLoop, if_neg hturn, hnext]
      simp

theorem mkdirP_eq (fs : Disk) (path : Path) :
    mkdirP fs path = fs.makeAll (start fs path) [] (components path) := by
  have hstarts := starts fs path
  unfold mkdirP
  cases path with
  | nil => simp [mkdirLoop, components, Files.makeAll, Files.mkdir, enter, Files.isDir_iff.mp (isDir_start fs [])]
  | cons c path =>
    rw [List.length_cons]
    by_cases hc : c = '/'
    · -- the empty beginning of an absolute path is skipped, making it would change nothing
      subst hc
      have hbase : ∀ more, components (['/'] ++ more) = [[]] ++ components more := fun more =>
        components_append_slash [] more
      have hroot : fs.mkdir (start fs ('/' :: path)) [[]] = .error .eexist :=
        Files.mkdir_slashes rfl (isDir_start fs _)
      have hloop : mkdirLoop ('/' :: path) (List.range' 1 (path.length + 1)) fs =
          fs.makeAll (start fs ('/' :: path)) [[]] (components path) :=
        mkdirLoop_eq hstarts rfl rfl hbase List.not_mem_nil (List.cons_ne_nil _ _)
      have hcomponents : components ('/' :: path) = [] :: components path := hbase path
      rw [hloop, hcomponents, Files.makeAll, List.nil_append, hroot]
    · have hbase : ∀ more, components ([] ++ more) = [] ++ components more := fun more => rfl
      have hcurrent : '/' ∉ [c] := by simp [Ne.symm hc]
      have hseen : ([] : Path) ++ [c] ≠ [] := List.cons_ne_nil _ _
      exact mkdirLoop_eq hstarts rfl rfl hbase hcurrent hseen

theorem mkdirP_touched (fs : Disk) (path : Path) (place : Location) :
    place ∈ (mkdirP fs path).2.touched ↔
      place ∈ fs.touched ∨ place ∈ fs.missing (start fs path) (components path) := by
  rw [mkdirP_eq]
  exact Files.makeAll_touched (isDir_start fs path) (components path) place

theorem grown_mkdirP (fs : Disk) (path : Path) : Files.Grown fs (mkdirP fs path).2 := by
  rw [mkdirP_eq]
  exact Files.grown_makeAll fs _ _ _

theorem resolve_eq {fs' : Disk} (h : Files.Grown fs fs') (path : Path) : resolve fs' path = resolve fs path := by
  unfold resolve
  rw [start_eq h]

/-! ## What lies inside the destination -/

/-- Everything made or written so far lies inside `dest`. -/
def Inside (fs : Disk) (dest : Path) : Prop := ∀ place ∈ fs.touched, resolve fs dest <:+ place

/-- What is missing on the way along a path lies inside `dest`. -/
def MissingInside (fs : Disk) (dest path : Path) : Prop :=
  ∀ place ∈ fs.missing (start fs path) (components path), resolve fs dest <:+ place

theorem mkdirP_inside (fs : Disk) (dest path : Path) :
    Inside (mkdirP fs path).2 dest ↔ Inside fs dest ∧ MissingInside fs dest path := by
  unfold Inside MissingInside
  rw [resolve_eq (grown_mkdirP fs path)]
  simp only [mkdirP_touched, or_imp, forall_and]

def Settled (fs : Disk) (dest : Path) : Prop := Files.Settled fs (start fs dest) (components dest)

variable {dest : Path}

theorem settled_mkdirP (hok : (mkdirP fs dest).1 = true) : Settled (mkdirP fs dest).2 dest := by
  unfold Settled
  rw [start_eq (grown_mkdirP fs dest)]
  rw [mkdirP_eq] at hok ⊢
  exact Files.makeAll_settled (isDir_start fs dest) rfl hok

theorem Settled.grown {fs' : Disk} (hgrown : Files.Grown fs fs') (h : Settled fs dest) : Settled fs' dest := by
  unfold Settled
  rw [start_eq hgrown]
  exact Files.Settled.grown hgrown h

theorem components_inDest (dest name : Path) : components (inDest dest name) = components dest ++ components name :=
  components_append_slash dest name

theorem start_inDest (fs : Disk) (hdest : dest ≠ []) (name : Path) :
    start fs (inDest dest name) = start fs dest := start_append fs hdest ('/' :: name)

theorem upToLastSlash_inDest (dest name : Path) :
    ∃ more names, upToLastSlash (inDest dest name) = some (dest ++ more) ∧
      components (dest ++ more) = components dest ++ names ∧ ∀ other ∈ names, other ∈ components name := by
  cases hname : upToLastSlash name with
  | none =>
    refine ⟨[], [], ?_, by simp, fun other h => (List.not_mem_nil h).elim⟩
    rw [inDest, upToLastSlash_append, hname, List.append_nil]
    rfl
  | some before =>
    refine ⟨'/' :: before, components before, ?_, components_inDest dest before, fun other h => ?_⟩
    · rw [inDest, upToLastSlash_append, hname]
      rfl
    · exact components_upToLastSlash hname h

theorem not_dots_of_not_suspicious {name : Path} (h : suspicious name = false) :
    ∀ other ∈ components name, other ≠ ['.', '.'] := by
  rintro other hother rfl
  have hin := infix_of_mem_components hother
  simp [suspicious, hin] at h

theorem grown_writeFile (fs : Disk) (path : Path) (data : List UInt8) : Files.Grown fs (writeFile fs path data).2 := by
  unfold writeFile
  cases upToLastSlash path with
  | none => exact Files.grown_write fs _ _ data
  | some parent =>
    have hparents := grown_mkdirP fs parent
    dsimp only
    split
    · exact hparents.trans (Files.grown_write _ _ _ data)
    · exact hparents

theorem writeFile_inside {name : Path} (hdest : dest ≠ []) (hsettled : Settled fs dest)
    (hguard : suspicious name = false) (data : List UInt8) :
    Inside (writeFile fs (inDest dest name) data).2 dest ↔ Inside fs dest := by
  have hnames := not_dots_of_not_suspicious hguard
  obtain ⟨more, names, hparent, hcomponents, hsub⟩ := upToLastSlash_inDest dest name
  have hparents : Inside (mkdirP fs (dest ++ more)).2 dest ↔ Inside fs dest := by
    rw [mkdirP_inside]
    refine and_iff_left fun place hplace => ?_
    rw [hcomponents, start_append fs hdest] at hplace
    exact Files.Settled.missing hsettled (fun other hother => hnames other (hsub other hother)) hplace
  have hgrown := grown_mkdirP fs (dest ++ more)
  unfold writeFile
  rw [hparent]
  dsimp only
  split
  · rw [← hparents]
    have hwritten := Files.grown_write (mkdirP fs (dest ++ more)).2 (start fs (inDest dest name))
      (components (inDest dest name)) data
    unfold Inside
    rw [resolve_eq hwritten]
    refine ⟨fun h place hplace => h place (Files.touched_of_write hplace), fun h place hplace => ?_⟩
    rcases Files.write_touched hplace with hplace | hleaf
    · exact h place hplace
    · -- past the destination the name leads only downwards
      rw [components_inDest, ← start_eq hgrown, start_inDest _ hdest] at hleaf
      exact Files.Settled.leaf (hsettled.grown hgrown) hnames (components_ne_nil name) hleaf
  · exact hparents

theorem writeSizeStamp_inside (hdest : dest ≠ []) (hsettled : Settled fs dest) (size : ℕ) :
    Inside (writeSizeStamp fs dest size) dest ↔ Inside fs dest := by
  have hnames : ∀ other ∈ components ".size".toList, other ≠ ['.', '.'] := by decide
  have hwritten := Files.grown_write fs (start fs (stampPath dest)) (components (stampPath dest)) (sizeDigits size)
  unfold writeSizeStamp Inside
  rw [resolve_eq hwritten]
  refine ⟨fun h place hplace => h place (Files.touched_of_write hplace), fun h place hplace => ?_⟩
  rcases Files.write_touched hplace with hplace | hleaf
  · exact h place hplace
  · have hstamp : stampPath dest = inDest dest ".size".toList := rfl
    rw [hstamp, components_inDest, start_inDest _ hdest] at hleaf
    exact Files.Settled.leaf hsettled hnames (components_ne_nil _) hleaf

theorem grown_extractEntry (dest : Path) (fs : Disk) (entry : Option Entry) :
    Files.Grown fs (extractEntry dest fs entry).2 := by
  cases entry with
  | none => exact Files.Grown.refl fs
  | some entry =>
    rw [extractEntry]
    split
    · exact grown_mkdirP fs _
    · split
      · exact Files.Grown.refl fs
      · split
        · exact Files.Grown.refl fs
        · exact grown_writeFile fs _ _

theorem grown_extractEntries (dest : Path) (entries : List (Option Entry)) (fs : Disk) :
    Files.Grown fs (extractEntries dest entries fs).2 := by
  induction entries generalizing fs with
  | nil => exact Files.Grown.refl fs
  | cons entry entries ih =>
    have hentry := grown_extractEntry dest fs entry
    rw [extractEntries]
    split
    · exact hentry.trans (ih _)
    · exact hentry

theorem grown_extractAll (reader : List UInt8 → Option (List (Option Entry))) (fs : Disk) (dest : Path)
    (blob : List UInt8) : Files.Grown fs (extractAll reader fs dest blob).2 := by
  have hdest := grown_mkdirP fs dest
  unfold extractAll
  split
  · cases reader blob with
    | none => exact hdest
    | some entries =>
      have hentries := hdest.trans (grown_extractEntries dest entries (mkdirP fs dest).2)
      dsimp only
      split
      · exact hentries.trans (Files.grown_write _ _ _ _)
      · exact hentries
  · exact hdest

/-! ## When an extraction stays inside -/

/-- A directory entry leads to nothing missing outside the destination. -/
def EntryInside (fs : Disk) (dest : Path) : Option Entry → Prop
  | none => True
  | some entry => entry.isDirectory = true → MissingInside fs dest (inDest dest entry.filename)

theorem extractEntry_inside (hdest : dest ≠ []) (hsettled : Settled fs dest) (entry : Option Entry) :
    Inside (extractEntry dest fs entry).2 dest ↔ Inside fs dest ∧ EntryInside fs dest entry := by
  cases entry with
  | none => exact (and_iff_left trivial).symm
  | some entry =>
    rw [extractEntry]
    by_cases hdir : entry.isDirectory = true
    · rw [if_pos hdir, mkdirP_inside]
      simp only [EntryInside, hdir, forall_const]
    · have hentry : EntryInside fs dest (some entry) := fun h => (hdir h).elim
      rw [if_neg hdir, and_iff_left hentry]
      by_cases hguard : suspicious entry.filename = true
      · rw [if_pos hguard]
      · rw [if_neg hguard]
        cases entry.contents with
        | none => exact Iff.rfl
        | some data => exact writeFile_inside hdest hsettled (Bool.eq_false_iff.mpr hguard) data

/-- Every entry the extraction gets to leads to nothing missing outside, on the files as they are then. -/
def EntriesInside (dest : Path) : List (Option Entry) → Disk → Prop
  | [], _ => True
  | entry :: entries, fs =>
    EntryInside fs dest entry ∧
      ((extractEntry dest fs entry).1 = true → EntriesInside dest entries (extractEntry dest fs entry).2)

theorem extractEntries_inside (hdest : dest ≠ []) (entries : List (Option Entry)) (hsettled : Settled fs dest) :
    (Inside (extractEntries dest entries fs).2 dest ↔ Inside fs dest ∧ EntriesInside dest entries fs) ∧
      Settled (extractEntries dest entries fs).2 dest := by
  induction entries generalizing fs with
  | nil => exact ⟨(and_iff_left trivial).symm, hsettled⟩
  | cons entry entries ih =>
    have hentry := extractEntry_inside hdest hsettled entry
    have hnext := hsettled.grown (grown_extractEntry dest fs entry)
    rw [extractEntries, EntriesInside]
    split
    · next hok =>
      refine ⟨?_, (ih hnext).2⟩
      rw [(ih hnext).1, hentry, and_assoc]
      simp only [hok, forall_const]
    · next hok =>
      refine ⟨?_, hnext⟩
      rw [hentry, and_iff_left fun h => (hok h).elim]

/-- When an extraction stays inside its destination: the archive cannot be read, or it is cached, or
what is missing on the way to the destination and along the directory entries lies inside. -/
def StaysInside (reader : List UInt8 → Option (List (Option Entry))) (fs : Disk) (auginsZipPath dest : Path) : Prop :=
  ∀ blob, readFileBytes fs auginsZipPath = some blob → readSizeStamp fs dest ≠ some blob.length →
    MissingInside fs dest dest ∧
      ((mkdirP fs dest).1 = true → ∀ entries, reader blob = some entries →
        EntriesInside dest entries (mkdirP fs dest).2)

theorem extractAll_inside (reader : List UInt8 → Option (List (Option Entry))) (fs : Disk) (hdest : dest ≠ [])
    (blob : List UInt8) :
    Inside (extractAll reader fs dest blob).2 dest ↔
      Inside fs dest ∧ MissingInside fs dest dest ∧
        ((mkdirP fs dest).1 = true → ∀ entries, reader blob = some entries →
          EntriesInside dest entries (mkdirP fs dest).2) := by
  rw [← and_assoc, ← mkdirP_inside, extractAll]
  split
  · next hok =>
    have hsettled := settled_mkdirP hok
    simp only [hok, forall_const]
    cases hreader : reader blob with
    | none => simp
    | some entries =>
      obtain ⟨hentries, hafter⟩ := extractEntries_inside hdest entries hsettled
      have hstamp := writeSizeStamp_inside hdest hafter blob.length
      simp only [Option.some.injEq, forall_eq']
      rw [← hentries]
      split
      · exact hstamp
      · exact Iff.rfl
  · next hok => simp [hok]

def untouched (fs : Disk) : Disk := { fs with touched := [] }

/-- An extraction makes and writes inside its destination exactly when the directories above it are
there and no directory entry leads to something missing elsewhere. -/
theorem extractAuginsZip_inside_iff (reader : List UInt8 → Option (List (Option Entry))) (fs : Disk)
    (auginsZipPath stagingSubdir cacheRoot : Path) :
    (∀ place ∈ (extractAuginsZip reader (untouched fs) auginsZipPath stagingSubdir cacheRoot).2.2.touched,
        resolve fs (cacheRoot ++ '/' :: stagingSubdir) <:+ place) ↔
      StaysInside reader (untouched fs) auginsZipPath (cacheRoot ++ '/' :: stagingSubdir) := by
  have hdest : cacheRoot ++ '/' :: stagingSubdir ≠ [] := by simp
  generalize hpath : cacheRoot ++ '/' :: stagingSubdir = dest at hdest ⊢
  have hbefore : Inside (untouched fs) dest := fun place h => (List.not_mem_nil h).elim
  have hsame : resolve (untouched fs) dest = resolve fs dest := rfl
  unfold extractAuginsZip StaysInside
  rw [hpath]
  dsimp only
  cases hblob : readFileBytes (untouched fs) auginsZipPath with
  | none =>
    refine iff_of_true (fun place h => (List.not_mem_nil h).elim) fun blob h => ?_
    cases h
  | some blob =>
    simp only [Option.some.injEq, forall_eq']
    split
    · next hcached => exact iff_of_true (fun place h => (List.not_mem_nil h).elim) fun h => (h hcached).elim
    · next hcached =>
      have hall := extractAll_inside reader (untouched fs) hdest blob
      have hinside := hall.trans (and_iff_right hbefore)
      unfold Inside at hinside
      rw [resolve_eq (grown_extractAll reader (untouched fs) dest blob), hsame] at hinside
      exact hinside.trans ⟨fun h _ => h, fun h => h hcached⟩

/-- An archive of one entry, the directory `../evil/`. -/
def evilZip : List UInt8 :=
  [80, 75, 3, 4, 20, 0, 0, 0, 0, 0, 0, 0, 33, 0, 0, 0, 0, 0, 0, 0, 0, 0,
    0, 0, 0, 0, 8, 0, 0, 0, 46, 46, 47, 101, 118, 105, 108, 47, 80, 75, 1, 2, 20, 0,
    20, 0, 0, 0, 0, 0, 0, 0, 33, 0, 0, 0, 0, 0, 0, 0, 0, 0, 0, 0, 0, 0,
    8, 0, 0, 0, 0, 0, 0, 0, 0, 0, 16, 0, 0, 0, 0, 0, 0, 0, 46, 46, 47, 101,
    118, 105, 108, 47, 80, 75, 5, 6, 0, 0, 0, 0, 1, 0, 1, 0, 54, 0, 0, 0, 38, 0,
    0, 0, 0, 0]

def evilReader (blob : List UInt8) : Option (List (Option Entry)) :=
  if blob = evilZip then some [some ⟨"../evil/".toList, true, some []⟩] else none

/-- The directories `/c` and `/c/s` and the archive `/m`. -/
def smallNode (loc : Location) : Option (Node UInt8) :=
  if loc = [] ∨ loc = [['c']] ∨ loc = [['s'], ['c']] then some .dir
  else if loc = [['m']] then some (.file evilZip)
  else none

theorem smallNode_around (name : Name) (loc : Location) (h : smallNode (name :: loc) ≠ none) :
    smallNode loc = some .dir := by
  unfold smallNode at h ⊢
  split at h
  · next hdir => rcases hdir with h | h | h <;> cases h <;> rfl
  · split at h
    · next hfile =>
      cases hfile
      rfl
    · exact (h rfl).elim

def smallDisk : Disk where
  node := smallNode
  cwd := []
  refuses _ := false
  room _ := 1000
  touched := []
  root := rfl
  around := smallNode_around
  cwd_dir := rfl

/-- The directory entry makes `/c/evil`, beside the destination `/c/s`. -/
theorem evilZip_escapes :
    ¬ ∀ place ∈ (extractAuginsZip evilReader smallDisk "/m".toList "s".toList "/c".toList).2.2.touched,
      resolve smallDisk "/c/s".toList <:+ place := by
  decide

end AugmentedInsanity.Augins.Extract
