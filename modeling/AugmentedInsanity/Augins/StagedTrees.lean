/-
The size stamp over a sequence of extractions into one directory (`extract.cpp`). A stamp says which archive
the directory holds; an extraction that ends early has written over the files and leaves the old stamp. When
no extraction over a stamped directory is disturbed, every call that succeeds leaves its own archive's files
(`extracted_complete`).
-/
import AugmentedInsanity.Augins.Extract
import Mathlib.Data.List.Forall2
import Mathlib.Data.List.TakeWhile

namespace AugmentedInsanity.Augins.Extract

open FileTree Files

/-! ## The stamp -/

theorem isDigit_ofNat {c : Char} (h : c.isDigit = true) :
    isDigit (UInt8.ofNat c.toNat) = true ∧ (UInt8.ofNat c.toNat).toNat = c.toNat := by
  have hrange : 48 ≤ c.toNat ∧ c.toNat ≤ 57 := by
    simp only [Char.isDigit, Bool.and_eq_true, decide_eq_true_eq, ge_iff_le, UInt32.le_iff_toNat_le] at h
    exact h
  have hnat : (UInt8.ofNat c.toNat).toNat = c.toNat := by
    rw [UInt8.toNat_ofNat']
    omega
  refine ⟨?_, hnat⟩
  simp only [isDigit, Bool.and_eq_true, decide_eq_true_eq, UInt8.le_iff_toNat_le, hnat]
  exact hrange

theorem not_special_of_isDigit {b : UInt8} (h : isDigit b = true) : isSpace b = false ∧ b ≠ 43 ∧ b ≠ 45 := by
  simp only [isDigit, Bool.and_eq_true, decide_eq_true_eq, UInt8.le_iff_toNat_le] at h
  have h48 : (48 : UInt8).toNat = 48 := rfl
  refine ⟨?_, ?_, ?_⟩
  · simp only [isSpace, Bool.or_eq_false_iff, Bool.and_eq_false_iff, decide_eq_false_iff_not, UInt8.le_iff_toNat_le,
      ← UInt8.toNat_inj]
    have h13 : (13 : UInt8).toNat = 13 := rfl
    have h32 : (32 : UInt8).toNat = 32 := rfl
    omega
  · rintro rfl
    exact absurd h.1 (by decide)
  · rintro rfl
    exact absurd h.1 (by decide)

theorem extractSize_sizeDigits {size found : ℕ} (h : extractSize (sizeDigits size) = some found) : found = size := by
  have hdigits : ∀ b ∈ sizeDigits size, isDigit b = true := by
    intro b hb
    obtain ⟨c, hc, rfl⟩ := List.mem_map.1 hb
    exact (isDigit_ofNat (Nat.isDigit_of_mem_toDigits (by decide) (by decide) hc)).1
  have hvalue : (sizeDigits size).foldl (fun v b => 10 * v + (b.toNat - 48)) 0 = size := by
    have hfold : ∀ (cs : List Char) (v : ℕ), (∀ c ∈ cs, c.isDigit = true) →
        (cs.map fun c => UInt8.ofNat c.toNat).foldl (fun v b => 10 * v + (b.toNat - 48)) v =
          Nat.ofDigitChars 10 cs v := by
      intro cs
      induction cs with
      | nil => intro v _; simp
      | cons c cs ih =>
        intro v hcs
        rw [List.map_cons, List.foldl_cons, (isDigit_ofNat (hcs c List.mem_cons_self)).2, Nat.ofDigitChars_cons,
          ih _ fun d hd => hcs d (List.mem_cons_of_mem _ hd)]
        rfl
    rw [sizeDigits, hfold _ 0 fun c hc => Nat.isDigit_of_mem_toDigits (by decide) (by decide) hc]
    exact Nat.ofDigitChars_ten_toDigits
  have hspan : (sizeDigits size).takeWhile isDigit = sizeDigits size := List.takeWhile_eq_self_iff.2 hdigits
  obtain ⟨b, rest, hcons⟩ : ∃ b rest, sizeDigits size = b :: rest :=
    List.exists_cons_of_ne_nil (by simp [sizeDigits])
  obtain ⟨hspace, hplus, hminus⟩ := not_special_of_isDigit (hdigits b (by rw [hcons]; exact List.mem_cons_self))
  have hdrop : (sizeDigits size).dropWhile isSpace = sizeDigits size := by
    rw [hcons, List.dropWhile_cons_of_neg (by simp [hspace])]
  have hunsigned : extractSize (sizeDigits size) =
      if sizeDigits size = [] ∨ 2 ^ 64 ≤ size then none else some size := by
    unfold extractSize
    rw [hdrop]
    split
    · next rest' heq =>
      rw [hcons] at heq
      exact absurd (List.cons.inj heq).1 hplus
    · next rest' heq =>
      rw [hcons] at heq
      exact absurd (List.cons.inj heq).1 hminus
    · simp only [hspan, hvalue]
  rw [hunsigned] at h
  split at h
  · cases h
  · exact (Option.some.inj h).symm

/-! ## Where the entries lead -/

/-- The file entries the loop takes. -/
def Accepted (e : Entry) : Prop := e.isDirectory = false ∧ suspicious e.filename = false

instance (e : Entry) : Decidable (Accepted e) := inferInstanceAs (Decidable (_ ∧ _))

def relative (name : Path) : Location := (components name).foldl enter []

def Holds (fs : Disk) (path : Path) (data : List UInt8) : Prop := fs.node (resolve fs path) = some (.file data)

def Stamped (fs : Disk) (dest : Path) (size : ℕ) : Prop :=
  ∃ bytes, Holds fs (stampPath dest) bytes ∧ extractSize bytes = some size

/-- Every file of the archive is there as the archive has it. -/
def Complete (fs : Disk) (dest : Path) (entries : List (Option Entry)) : Prop :=
  ∀ e, some e ∈ entries → Accepted e → ∃ data, e.contents = some data ∧ Holds fs (inDest dest e.filename) data

theorem foldl_enter_eq {names : List Name} (h : ∀ name ∈ names, name ≠ ['.', '.']) (loc : Location) :
    names.foldl enter loc = names.foldl enter [] ++ loc := by
  induction names generalizing loc with
  | nil => rfl
  | cons name names ih =>
    have hrest := ih fun other hother => h other (List.mem_cons_of_mem _ hother)
    have hstep : enter loc name = enter [] name ++ loc := by
      have hdots := h name List.mem_cons_self
      unfold enter
      rw [if_neg hdots, if_neg hdots]
      split <;> rfl
    rw [List.foldl_cons, List.foldl_cons, hrest (enter loc name), hrest (enter [] name), hstep, List.append_assoc]

theorem resolve_inDest (fs : Disk) {dest name : Path} (hdest : dest ≠ []) (h : suspicious name = false) :
    resolve fs (inDest dest name) = relative name ++ resolve fs dest := by
  have hstart : start fs (inDest dest name) = start fs dest := start_inDest fs hdest name
  rw [resolve, hstart, components_inDest, List.foldl_append, relative,
    foldl_enter_eq (not_dots_of_not_suspicious h)]
  rfl

variable {dest : Path} {e : Entry} {data : List UInt8} {path : Path} {size : ℕ}

theorem resolve_stampPath (fs : Disk) (hdest : dest ≠ []) :
    resolve fs (stampPath dest) = ".size".toList :: resolve fs dest := by
  have hstamp : stampPath dest = inDest dest ".size".toList := rfl
  rw [hstamp, resolve_inDest fs hdest (by decide)]
  rfl

theorem stamped_of_readSizeStamp {fs : Disk} (h : readSizeStamp fs dest = some size) : Stamped fs dest size := by
  obtain ⟨bytes, hread, hsize⟩ := Option.bind_eq_some_iff.1 h
  refine ⟨bytes, ?_, hsize⟩
  unfold readFileBytes Files.read at hread
  split at hread
  · cases hread
  · next place hleaf =>
    obtain rfl := leaf_eq hleaf
    split at hread
    · next content hnode =>
      split at hread
      · cases hread
      · cases hread
        exact hnode
    · cases hread

/-! ## What an extraction changes -/

theorem sameFiles_mkdirP (fs : Disk) (path : Path) : SameFiles fs (mkdirP fs path).2 fun _ => False := by
  rw [mkdirP_eq]
  exact sameFiles_makeAll fs _ _ _

theorem sameFiles_writeFile (fs : Disk) (path : Path) (data : List UInt8) :
    SameFiles fs (writeFile fs path data).2 (· = resolve fs path) := by
  unfold writeFile
  cases upToLastSlash path with
  | none => exact sameFiles_write fs _ _ data
  | some parent =>
    have hparents : SameFiles fs (mkdirP fs parent).2 (· = resolve fs path) :=
      (sameFiles_mkdirP fs parent).mono fun _ h => h.elim
    dsimp only
    split
    · exact hparents.trans (sameFiles_write (mkdirP fs parent).2 (start fs path) (components path) data)
    · exact hparents

theorem holds_writeFile {fs : Disk} (h : (writeFile fs path data).1 = true) :
    Holds (writeFile fs path data).2 path data := by
  have hwrite : ∀ fs' : Disk, ((fs'.write (start fs path) (components path) data).1 &&
      (fs'.write (start fs path) (components path) data).2.1) = true →
        (fs'.write (start fs path) (components path) data).2.2.node (resolve fs path) = some (.file data) := by
    intro fs' hok
    rw [Bool.and_eq_true] at hok
    exact node_of_write hok.1 (length_le_of_write hok.1 hok.2)
  unfold Holds
  rw [resolve_eq (grown_writeFile fs path data)]
  unfold writeFile at h ⊢
  cases hparent : upToLastSlash path with
  | none =>
    rw [hparent] at h
    exact hwrite fs h
  | some parent =>
    rw [hparent] at h
    dsimp only at h ⊢
    split at h
    · next hmade =>
      rw [if_pos hmade]
      exact hwrite _ h
    · cases h

def Places (fs : Disk) (dest : Path) (entries : List (Option Entry)) (loc : Location) : Prop :=
  ∃ e, some e ∈ entries ∧ Accepted e ∧ loc = resolve fs (inDest dest e.filename)

theorem places_grown {fs fs' : Disk} (h : Grown fs fs') (dest : Path) (entries : List (Option Entry)) :
    Places fs' dest entries = Places fs dest entries := by
  unfold Places
  simp only [resolve_eq h]

theorem extractEntry_file (h : Accepted e) (hdata : e.contents = some data) (dest : Path) (fs : Disk) :
    extractEntry dest fs (some e) = writeFile fs (inDest dest e.filename) data := by
  rw [extractEntry, if_neg (by simp [h.1]), if_neg (by simp [h.2]), hdata]

theorem extractEntry_corrupt (h : Accepted e) (hdata : e.contents = none) (dest : Path) (fs : Disk) :
    extractEntry dest fs (some e) = (false, fs) := by
  rw [extractEntry, if_neg (by simp [h.1]), if_neg (by simp [h.2]), hdata]

theorem sameFiles_extractEntry (dest : Path) (fs : Disk) (entry : Option Entry) :
    SameFiles fs (extractEntry dest fs entry).2 (Places fs dest [entry]) := by
  cases entry with
  | none => exact SameFiles.refl fs _
  | some e =>
    by_cases he : Accepted e
    · cases hdata : e.contents with
      | none =>
        rw [extractEntry_corrupt he hdata]
        exact SameFiles.refl fs _
      | some data =>
        rw [extractEntry_file he hdata]
        exact (sameFiles_writeFile fs _ data).mono fun loc hloc => ⟨e, List.mem_singleton_self _, he, hloc⟩
    · rw [extractEntry]
      split
      · exact (sameFiles_mkdirP fs _).mono fun _ h => h.elim
      · next hdir =>
        split
        · exact SameFiles.refl fs _
        · next hguard => exact absurd ⟨Bool.eq_false_iff.2 hdir, Bool.eq_false_iff.2 hguard⟩ he

theorem sameFiles_extractEntries (dest : Path) (entries : List (Option Entry)) (fs : Disk) :
    SameFiles fs (extractEntries dest entries fs).2 (Places fs dest entries) := by
  induction entries generalizing fs with
  | nil => exact SameFiles.refl fs _
  | cons entry entries ih =>
    have hentry : SameFiles fs (extractEntry dest fs entry).2 (Places fs dest (entry :: entries)) := by
      refine (sameFiles_extractEntry dest fs entry).mono ?_
      rintro loc ⟨e, he, hacc, hloc⟩
      exact ⟨e, by rw [List.mem_singleton.1 he]; exact List.mem_cons_self, hacc, hloc⟩
    rw [extractEntries]
    split
    · have hrest := ih (extractEntry dest fs entry).2
      rw [places_grown (grown_extractEntry dest fs entry)] at hrest
      refine hentry.trans (hrest.mono ?_)
      rintro loc ⟨e, he, hacc, hloc⟩
      exact ⟨e, List.mem_cons_of_mem _ he, hacc, hloc⟩
    · exact hentry

variable {entries : List (Option Entry)} {blob : List UInt8}

theorem extractEntries_keeps {fs : Disk} {loc : Location} (hok : (extractEntries dest entries fs).1 = true)
    (hloc : fs.node loc = some (.file data))
    (hsame : ∀ e, some e ∈ entries → Accepted e → loc = resolve fs (inDest dest e.filename) → e.contents = some data) :
    (extractEntries dest entries fs).2.node loc = some (.file data) := by
  induction entries generalizing fs with
  | nil => exact hloc
  | cons entry entries ih =>
    rw [extractEntries] at hok ⊢
    split at hok
    · next hentry =>
      rw [if_pos hentry]
      have hgrown := grown_extractEntry dest fs entry
      refine ih hok ?_ fun e he hacc hplace => hsame e (List.mem_cons_of_mem _ he) hacc (by rwa [← resolve_eq hgrown])
      by_cases hplace : Places fs dest [entry] loc
      · obtain ⟨e, he, hacc, rfl⟩ := hplace
        obtain rfl := (List.mem_singleton.1 he).symm
        have hcontents := hsame e List.mem_cons_self hacc rfl
        rw [extractEntry_file hacc hcontents] at hentry ⊢
        have hholds := holds_writeFile hentry
        rwa [Holds, resolve_eq (grown_writeFile fs _ _)] at hholds
      · exact ((sameFiles_extractEntry dest fs entry).files loc hplace data).2 hloc
    · cases hok

/-- No two accepted entries are for one file with different contents, and none is for the stamp. -/
structure WellNamed (entries : List (Option Entry)) : Prop where
  one : ∀ e e', some e ∈ entries → some e' ∈ entries → Accepted e → Accepted e' →
    relative e.filename = relative e'.filename → e.contents = e'.contents
  stamp : ∀ e, some e ∈ entries → Accepted e → relative e.filename ≠ relative ".size".toList

theorem contents_of_extractEntries {fs : Disk} (hok : (extractEntries dest entries fs).1 = true) (he : some e ∈ entries)
    (hacc : Accepted e) : ∃ data, e.contents = some data := by
  induction entries generalizing fs with
  | nil => cases he
  | cons entry entries ih =>
    rw [extractEntries] at hok
    split at hok
    · next hentry =>
      rcases List.mem_cons.1 he with rfl | he
      · cases hdata : e.contents with
        | none =>
          rw [extractEntry_corrupt hacc hdata] at hentry
          cases hentry
        | some data => exact ⟨data, rfl⟩
      · exact ih hok he
    · cases hok

theorem extractEntries_complete {dest : Path} (hdest : dest ≠ []) {entries : List (Option Entry)} {fs : Disk}
    (hok : (extractEntries dest entries fs).1 = true)
    (hone : ∀ e e', some e ∈ entries → some e' ∈ entries → Accepted e → Accepted e' →
      relative e.filename = relative e'.filename → e.contents = e'.contents) :
    Complete (extractEntries dest entries fs).2 dest entries := by
  induction entries generalizing fs with
  | nil => exact fun e he => (List.not_mem_nil he).elim
  | cons entry entries ih =>
    intro e he hacc
    obtain ⟨data, hdata⟩ := contents_of_extractEntries hok he hacc
    have hgrown := grown_extractEntries dest (entry :: entries) fs
    rw [extractEntries] at hok hgrown ⊢
    split at hok
    · next hentry =>
      rw [if_pos hentry] at hgrown ⊢
      rcases List.mem_cons.1 he with rfl | hrest
      · -- the entry is written now, and what comes after it keeps it
        refine ⟨data, hdata, ?_⟩
        unfold Holds
        rw [resolve_eq hgrown]
        have hstep := grown_extractEntry dest fs (some e)
        rw [extractEntry_file hacc hdata] at hok hentry hstep ⊢
        have hnow := holds_writeFile hentry
        unfold Holds at hnow
        rw [resolve_eq hstep] at hnow
        refine extractEntries_keeps hok hnow fun e' he' hacc' hplace => ?_
        rw [resolve_eq hstep, resolve_inDest fs hdest hacc.2, resolve_inDest fs hdest hacc'.2,
          List.append_cancel_right_eq] at hplace
        rw [← hone e e' List.mem_cons_self (List.mem_cons_of_mem _ he') hacc hacc' hplace, hdata]
      · exact ih hok (fun e e' h h' => hone e e' (List.mem_cons_of_mem _ h) (List.mem_cons_of_mem _ h')) e hrest hacc
    · cases hok

/-! ## Attempts -/

/-- An entry as a call sees it: its contents may fail. -/
def SeenAs (entry entry' : Option Entry) : Prop :=
  entry' = entry ∨ ∃ e, entry = some e ∧ entry' = some { e with contents := none }

/-- What one call sees of an archive: it may not open, and the contents of any entry may fail. -/
def Attempt (reader seen : List UInt8 → Option (List (Option Entry))) (blob : List UInt8) : Prop :=
  ∀ entries', seen blob = some entries' → ∃ entries, reader blob = some entries ∧
    List.Forall₂ SeenAs entries entries'

/-- Every accepted entry can be read and written when the loop gets to it. -/
def EntriesWritten (dest : Path) : List (Option Entry) → Disk → Prop
  | [], _ => True
  | entry :: entries, fs =>
    (∀ e, entry = some e → Accepted e →
        ∃ data, e.contents = some data ∧ (writeFile fs (inDest dest e.filename) data).1 = true) ∧
      EntriesWritten dest entries (extractEntry dest fs entry).2

/-- The directory can be made, the archive read, its entries written and the stamp opened. -/
structure Undisturbed (seen : List UInt8 → Option (List (Option Entry))) (fs : Disk) (dest : Path)
    (blob : List UInt8) : Prop where
  made : (mkdirP fs dest).1 = true
  written : ∃ entries, seen blob = some entries ∧ EntriesWritten dest entries (mkdirP fs dest).2
  stamp : fs.refuses (resolve fs (stampPath dest)) = false

/-- No file is opened to be written to: its directories cannot be made, or it cannot be opened. -/
def Unopened (fs : Disk) (path : Path) (data : List UInt8) : Prop :=
  let parents := match upToLastSlash path with
    | none => (true, fs)
    | some parent => mkdirP fs parent
  parents.1 = true → (parents.2.write (start fs path) (components path) data).1 = false

/-- The first accepted entry fails before anything is written. -/
def EndsUnwritten (dest : Path) : List (Option Entry) → Disk → Prop
  | [], _ => False
  | entry :: entries, fs =>
    match entry with
    | none => EndsUnwritten dest entries fs
    | some e =>
      if Accepted e then ∀ data, e.contents = some data → Unopened fs (inDest dest e.filename) data
      else EndsUnwritten dest entries (extractEntry dest fs (some e)).2

/-- The call fails before it writes to a file. -/
def Unwritten (seen : List UInt8 → Option (List (Option Entry))) (fs : Disk) (dest : Path) (blob : List UInt8) : Prop :=
  (mkdirP fs dest).1 = true → ∀ entries, seen blob = some entries → EndsUnwritten dest entries (mkdirP fs dest).2

theorem writeFile_unopened {fs : Disk} (h : Unopened fs path data) :
    (writeFile fs path data).1 = false ∧ SameFiles fs (writeFile fs path data).2 fun _ => False := by
  unfold Unopened at h
  unfold writeFile
  cases hparent : upToLastSlash path with
  | none =>
    rw [hparent] at h
    have hclosed : (fs.write (start fs path) (components path) data).1 = false := h rfl
    dsimp only
    rw [if_pos rfl, hclosed, write_closed hclosed]
    exact ⟨rfl, SameFiles.refl fs _⟩
  | some parent =>
    rw [hparent] at h
    dsimp only at h ⊢
    split
    · next hmade =>
      rw [h hmade, write_closed (h hmade)]
      exact ⟨rfl, sameFiles_mkdirP fs parent⟩
    · exact ⟨rfl, sameFiles_mkdirP fs parent⟩

theorem extractEntries_unwritten {fs : Disk} (h : EndsUnwritten dest entries fs) :
    (extractEntries dest entries fs).1 = false ∧ SameFiles fs (extractEntries dest entries fs).2 fun _ => False := by
  induction entries generalizing fs with
  | nil => exact h.elim
  | cons entry entries ih =>
    cases entry with
    | none => exact ih h
    | some e =>
      rw [EndsUnwritten] at h
      split at h
      · next hacc =>
        have hfails : (extractEntry dest fs (some e)).1 = false ∧
            SameFiles fs (extractEntry dest fs (some e)).2 fun _ => False := by
          cases hdata : e.contents with
          | none =>
            rw [extractEntry_corrupt hacc hdata]
            exact ⟨rfl, SameFiles.refl fs _⟩
          | some data =>
            rw [extractEntry_file hacc hdata]
            exact writeFile_unopened (h data hdata)
        rw [extractEntries, hfails.1]
        exact ⟨rfl, hfails.2⟩
      · next hskipped =>
        have hentry : SameFiles fs (extractEntry dest fs (some e)).2 fun _ => False := by
          refine (sameFiles_extractEntry dest fs (some e)).mono ?_
          rintro loc ⟨e', he', hacc', -⟩
          cases List.mem_singleton.1 he'
          exact hskipped hacc'
        rw [extractEntries]
        split
        · exact ⟨(ih h).1, hentry.trans (ih h).2⟩
        · exact ⟨rfl, hentry⟩

theorem extractAll_unwritten {seen : List UInt8 → Option (List (Option Entry))} {fs : Disk}
    (h : Unwritten seen fs dest blob) :
    (extractAll seen fs dest blob).1 = false ∧ SameFiles fs (extractAll seen fs dest blob).2 fun _ => False := by
  have hmkdir := sameFiles_mkdirP fs dest
  unfold extractAll
  split
  · next hmade =>
    cases hseen : seen blob with
    | none => exact ⟨rfl, hmkdir⟩
    | some entries =>
      obtain ⟨hfails, hsame⟩ := extractEntries_unwritten (h hmade entries hseen)
      dsimp only
      rw [if_neg (by simp [hfails])]
      exact ⟨hfails, hmkdir.trans hsame⟩
  · next hmade => exact ⟨Bool.eq_false_iff.2 hmade, hmkdir⟩

theorem extractEntry_ok {dest : Path} {fs : Disk} {entry : Option Entry} (h : ∀ e, entry = some e → Accepted e →
    ∃ data, e.contents = some data ∧ (writeFile fs (inDest dest e.filename) data).1 = true) :
    (extractEntry dest fs entry).1 = true := by
  cases entry with
  | none => rfl
  | some e =>
    by_cases he : Accepted e
    · obtain ⟨data, hdata, hwritten⟩ := h e rfl he
      rw [extractEntry_file he hdata]
      exact hwritten
    · rw [extractEntry]
      split
      · rfl
      · next hdir =>
        split
        · rfl
        · next hguard => exact absurd ⟨Bool.eq_false_iff.2 hdir, Bool.eq_false_iff.2 hguard⟩ he

theorem extractEntries_ok {fs : Disk} (h : EntriesWritten dest entries fs) :
    (extractEntries dest entries fs).1 = true := by
  induction entries generalizing fs with
  | nil => rfl
  | cons entry entries ih =>
    rw [extractEntries, if_pos (extractEntry_ok h.1)]
    exact ih h.2

theorem forall₂_mem {α β : Type} {R : α → β → Prop} {as : List α} {bs : List β} (h : List.Forall₂ R as bs) :
    (∀ a ∈ as, ∃ b ∈ bs, R a b) ∧ ∀ b ∈ bs, ∃ a ∈ as, R a b := by
  induction h with
  | nil => exact ⟨by simp, by simp⟩
  | @cons a b as bs hab _ ih =>
    refine ⟨fun x hx => ?_, fun y hy => ?_⟩
    · rcases List.mem_cons.1 hx with rfl | hx
      · exact ⟨b, List.mem_cons_self, hab⟩
      · obtain ⟨y, hy, hxy⟩ := ih.1 x hx
        exact ⟨y, List.mem_cons_of_mem _ hy, hxy⟩
    · rcases List.mem_cons.1 hy with rfl | hy
      · exact ⟨a, List.mem_cons_self, hab⟩
      · obtain ⟨x, hx, hxy⟩ := ih.2 y hy
        exact ⟨x, List.mem_cons_of_mem _ hx, hxy⟩

variable {entries' : List (Option Entry)} {reader seen : List UInt8 → Option (List (Option Entry))}
  {blobs : List (List UInt8)}

theorem seen_of_attempt {fs : Disk} (hattempt : List.Forall₂ SeenAs entries entries')
    (hok : (extractEntries dest entries' fs).1 = true) (hacc : Accepted e) : some e ∈ entries ↔ some e ∈ entries' := by
  obtain ⟨hseen, hreal⟩ := forall₂_mem hattempt
  constructor
  · intro he
    obtain ⟨entry', hentry', h⟩ := hseen _ he
    rcases h with rfl | ⟨e', heq, rfl⟩
    · exact hentry'
    · -- its contents would have failed
      cases heq
      have hacc' : Accepted { e with contents := none } := hacc
      obtain ⟨data, hdata⟩ := contents_of_extractEntries hok hentry' hacc'
      cases hdata
  · intro he
    obtain ⟨entry, hentry, h⟩ := hreal _ he
    rcases h with rfl | ⟨e', rfl, heq⟩
    · exact hentry
    · obtain ⟨data, hdata⟩ := contents_of_extractEntries hok he hacc
      cases heq
      cases hdata

/-! ## One extraction -/

theorem relative_of_stamp {fs : Disk} (hdest : dest ≠ []) (hacc : Accepted e)
    (h : resolve fs (inDest dest e.filename) = resolve fs (stampPath dest)) :
    relative e.filename = relative ".size".toList := by
  have hstamp : stampPath dest = inDest dest ".size".toList := rfl
  rw [hstamp, resolve_inDest fs hdest (show suspicious ".size".toList = false by decide),
    resolve_inDest fs hdest hacc.2, List.append_cancel_right_eq] at h
  exact h

theorem stamp_not_place {fs : Disk} (hdest : dest ≠ []) (hattempt : List.Forall₂ SeenAs entries entries')
    (hnamed : WellNamed entries) : ¬ Places fs dest entries' (resolve fs (stampPath dest)) := by
  rintro ⟨e, he, hacc, hplace⟩
  have hrelative := relative_of_stamp hdest hacc hplace.symm
  obtain ⟨entry, hentry, h⟩ := (forall₂_mem hattempt).2 _ he
  rcases h with rfl | ⟨e', rfl, heq⟩
  · exact hnamed.stamp e hentry hacc hrelative
  · cases heq
    exact hnamed.stamp e' hentry hacc hrelative

theorem complete_extractEntries {fs : Disk} (hdest : dest ≠ []) (hattempt : List.Forall₂ SeenAs entries entries')
    (hok : (extractEntries dest entries' fs).1 = true) (hnamed : WellNamed entries) :
    Complete (extractEntries dest entries' fs).2 dest entries := by
  intro e he hacc
  refine extractEntries_complete hdest hok ?_ e ((seen_of_attempt hattempt hok hacc).1 he) hacc
  intro e e' he he' hacc hacc'
  exact hnamed.one e e' ((seen_of_attempt hattempt hok hacc).2 he) ((seen_of_attempt hattempt hok hacc').2 he') hacc hacc'

def StampsTell (reader : List UInt8 → Option (List (Option Entry))) (dest : Path) (blobs : List (List UInt8))
    (fs : Disk) : Prop :=
  ∀ size, Stamped fs dest size →
    ∃ blob ∈ blobs, blob.length = size ∧ ∃ entries, reader blob = some entries ∧ Complete fs dest entries

/-- When a call does not harm: the stamp matches; or it fails before it writes; or the archive is well named, there is
room for the stamp, and either there is no stamp yet or nothing fails. -/
def Harmless (reader seen : List UInt8 → Option (List (Option Entry))) (dest : Path) (fs : Disk)
    (blob : List UInt8) : Prop :=
  readSizeStamp fs dest = some blob.length ∨ Unwritten seen fs dest blob ∨
    (∀ entries, reader blob = some entries → WellNamed entries) ∧
      (sizeDigits blob.length).length ≤ fs.room (resolve fs (stampPath dest)) ∧
        ((∀ size, ¬ Stamped fs dest size) ∨ Undisturbed seen fs dest blob)

theorem stamped_congr {fs fs' : Disk} {changed : Location → Prop} (hgrown : Grown fs fs')
    (hsame : SameFiles fs fs' changed) (hstamp : ¬ changed (resolve fs (stampPath dest))) (size : ℕ) :
    Stamped fs' dest size ↔ Stamped fs dest size := by
  unfold Stamped Holds
  rw [resolve_eq hgrown]
  simp only [hsame.files _ hstamp]

theorem StampsTell.unwritten {fs : Disk} (h : StampsTell reader dest blobs fs)
    (hunwritten : Unwritten seen fs dest blob) : StampsTell reader dest blobs (extractAll seen fs dest blob).2 := by
  have hsame := (extractAll_unwritten hunwritten).2
  have hgrown := grown_extractAll seen fs dest blob
  intro size hsize
  obtain ⟨old, hold, hlen, entries, hentries, hcomplete⟩ := h size ((stamped_congr hgrown hsame not_false size).1 hsize)
  refine ⟨old, hold, hlen, entries, hentries, fun e he hacc => ?_⟩
  obtain ⟨data, hdata, hholds⟩ := hcomplete e he hacc
  refine ⟨data, hdata, ?_⟩
  unfold Holds
  rw [resolve_eq hgrown]
  exact (hsame.files _ not_false data).2 hholds

theorem stamp_opens {fs fs' : Disk} (hdest : dest ≠ []) (hstamped : Stamped fs dest size)
    (hmade : (mkdirP fs dest).1 = true) (hgrown : Grown (mkdirP fs dest).2 fs')
    (hallowed : fs'.refuses (resolve fs (stampPath dest)) = false) (content : List UInt8) :
    (fs'.write (start fs' (stampPath dest)) (components (stampPath dest)) content).1 = true := by
  obtain ⟨bytes, hnode, -⟩ := hstamped
  have hall := (grown_mkdirP fs dest).trans hgrown
  have hstart : start fs' (stampPath dest) = start fs dest := by
    rw [start_eq hall]
    exact start_append fs hdest _
  have hplace := resolve_stampPath fs hdest
  unfold Holds at hnode
  rw [hplace] at hnode hallowed
  have hdir : fs.isDir (resolve fs dest) = true := isDir_iff.2 (fs.around _ _ (by rw [hnode]; simp))
  -- the way to the directory
  have hwalk : (mkdirP fs dest).2.walk (start fs dest) (components dest) = some (resolve fs dest) := by
    rw [mkdirP_eq] at hmade ⊢
    refine makeAll_walk (isDir_start fs dest) rfl hmade ?_
    exact (grown_makeAll fs _ _ _).dirs _ hdir
  have hcomponents : components (stampPath dest) = components dest ++ [".size".toList] := components_inDest dest _
  have hleaf : fs'.leaf (start fs' (stampPath dest)) (components (stampPath dest)) =
      some (".size".toList :: resolve fs dest) := by
    rw [hstart, hcomponents, leaf_append (hgrown.walk hwalk) (List.cons_ne_nil _ _), leaf, if_pos (by decide)]
  obtain ⟨content', hfile⟩ := hall.files _ _ hnode
  refine write_opens hleaf ⟨List.cons_ne_nil _ _, hall.dirs _ hdir, ?_⟩ hallowed
  unfold isDir
  rw [hfile]

theorem writeSizeStamp_cases {fs : Disk} (hroom : (sizeDigits size).length ≤ fs.room (resolve fs (stampPath dest))) :
    writeSizeStamp fs dest size = fs ∧
        (fs.write (start fs (stampPath dest)) (components (stampPath dest)) (sizeDigits size)).1 = false ∨
      ∀ found, Stamped (writeSizeStamp fs dest size) dest found → found = size := by
  have hgrown := grown_write fs (start fs (stampPath dest)) (components (stampPath dest)) (sizeDigits size)
  unfold writeSizeStamp
  cases hopen : (fs.write (start fs (stampPath dest)) (components (stampPath dest)) (sizeDigits size)).1 with
  | false => exact Or.inl ⟨write_closed hopen, rfl⟩
  | true =>
    refine Or.inr fun found hfound => ?_
    obtain ⟨bytes, hnode, hsize⟩ := hfound
    unfold Holds at hnode
    rw [resolve_eq hgrown] at hnode
    have hwritten := (node_of_write hopen hroom).symm.trans hnode
    cases hwritten
    exact extractSize_sizeDigits hsize

theorem sameFiles_writeSizeStamp (fs : Disk) (dest : Path) (size : ℕ) :
    SameFiles fs (writeSizeStamp fs dest size) (· = resolve fs (stampPath dest)) :=
  sameFiles_write fs _ _ _

theorem Complete.stamped {fs : Disk} (hdest : dest ≠ []) (hnamed : WellNamed entries) (size : ℕ)
    (h : Complete fs dest entries) : Complete (writeSizeStamp fs dest size) dest entries := by
  intro e he hacc
  obtain ⟨data, hdata, hholds⟩ := h e he hacc
  have hgrown := grown_write fs (start fs (stampPath dest)) (components (stampPath dest)) (sizeDigits size)
  refine ⟨data, hdata, ?_⟩
  unfold Holds
  rw [writeSizeStamp, resolve_eq hgrown]
  refine ((sameFiles_writeSizeStamp fs dest size).files _ (fun hplace => ?_) data).2 hholds
  exact hnamed.stamp e he hacc (relative_of_stamp hdest hacc hplace)

theorem extractAll_tells (hdest : dest ≠ []) {fs : Disk} (hattempt : Attempt reader seen blob)
    (hnamed : ∀ entries, reader blob = some entries → WellNamed entries)
    (hroom : (sizeDigits blob.length).length ≤ fs.room (resolve fs (stampPath dest)))
    (hstamp : (∀ size, ¬ Stamped fs dest size) ∨ Undisturbed seen fs dest blob) (blobs : List (List UInt8)) :
    StampsTell reader dest (blobs ++ [blob]) (extractAll seen fs dest blob).2 ∧
      ((extractAll seen fs dest blob).1 = true → ∀ entries, reader blob = some entries →
        Complete (extractAll seen fs dest blob).2 dest entries) := by
  have hmkdir := grown_mkdirP fs dest
  have hsame := sameFiles_mkdirP fs dest
  have hmade' : ∀ size, Stamped (mkdirP fs dest).2 dest size ↔ Stamped fs dest size :=
    stamped_congr hmkdir hsame not_false
  unfold extractAll
  by_cases hmade : (mkdirP fs dest).1 = true
  · rw [if_pos hmade]
    cases hseen : seen blob with
    | none =>
      have hnone := hstamp.resolve_right fun h => by
        obtain ⟨entries, hentries, -⟩ := h.written
        rw [hseen] at hentries
        cases hentries
      exact ⟨fun size h => absurd ((hmade' size).1 h) (hnone size), nofun⟩
    | some entries' =>
      obtain ⟨entries, hreader, hall⟩ := hattempt entries' hseen
      have hwell := hnamed entries hreader
      have hentries := grown_extractEntries dest entries' (mkdirP fs dest).2
      have hplace : ¬ Places (mkdirP fs dest).2 dest entries' (resolve (mkdirP fs dest).2 (stampPath dest)) :=
        stamp_not_place hdest hall hwell
      have hkept := sameFiles_extractEntries dest entries' (mkdirP fs dest).2
      have hiff : ∀ size, Stamped (extractEntries dest entries' (mkdirP fs dest).2).2 dest size ↔
          Stamped fs dest size := fun size => (stamped_congr hentries hkept hplace size).trans (hmade' size)
      dsimp only
      by_cases hok : (extractEntries dest entries' (mkdirP fs dest).2).1 = true
      · rw [if_pos hok]
        have hcomplete := (complete_extractEntries hdest hall hok hwell).stamped hdest hwell blob.length
        refine ⟨fun size hsize => ?_, fun _ entries₂ hentries₂ => ?_⟩
        · refine ⟨blob, by simp, ?_, entries, hreader, hcomplete⟩
          have hroom' : (sizeDigits blob.length).length ≤ (extractEntries dest entries' (mkdirP fs dest).2).2.room
              (resolve (extractEntries dest entries' (mkdirP fs dest).2).2 (stampPath dest)) := by
            rw [hkept.room, hsame.room, resolve_eq (hmkdir.trans hentries)]
            exact hroom
          rcases writeSizeStamp_cases hroom' with ⟨hold, hclosed⟩ | htells
          · -- an old stamp would have been opened
            dsimp only at hsize
            rw [hold, hiff] at hsize
            have hund := hstamp.resolve_left fun h => h size hsize
            have hopens := stamp_opens hdest hsize hmade hentries (by
              rw [hkept.refuses, hsame.refuses]
              exact hund.stamp) (sizeDigits blob.length)
            rw [hclosed] at hopens
            cases hopens
          · exact (htells size hsize).symm
        · rw [hreader] at hentries₂
          cases hentries₂
          exact hcomplete
      · rw [if_neg hok]
        have hnone := hstamp.resolve_right fun h => by
          obtain ⟨entries₂, hentries₂, hwritten⟩ := h.written
          rw [hseen] at hentries₂
          cases hentries₂
          exact hok (extractEntries_ok hwritten)
        exact ⟨fun size h => absurd ((hiff size).1 h) (hnone size), fun h => absurd h hok⟩
  · rw [if_neg hmade]
    have hnone := hstamp.resolve_right fun h => hmade h.made
    exact ⟨fun size h => absurd ((hmade' size).1 h) (hnone size), fun h => absurd h hmade⟩

/-! ## Calls, one after the other -/

/-- Between two calls anything may happen outside the destination, and the system may change its mind. -/
structure Elsewhere (dest : Path) (fs fs' : Disk) : Prop where
  cwd : fs'.cwd = fs.cwd
  inside : ∀ loc, resolve fs dest <:+ loc → fs'.node loc = fs.node loc

/-- The archives of the calls so far and the files after them; each call met `ok`. The destination has no stamp
before the first. -/
inductive Calls (reader : List UInt8 → Option (List (Option Entry))) (stagingSubdir cacheRoot : Path)
    (ok : (List UInt8 → Option (List (Option Entry))) → Disk → List UInt8 → Prop) : List (List UInt8) → Disk → Prop
  | none {fs} : (∀ size, ¬ Stamped fs (cacheRoot ++ '/' :: stagingSubdir) size) →
      Calls reader stagingSubdir cacheRoot ok [] fs
  | elsewhere {blobs fs fs'} : Calls reader stagingSubdir cacheRoot ok blobs fs →
      Elsewhere (cacheRoot ++ '/' :: stagingSubdir) fs fs' → Calls reader stagingSubdir cacheRoot ok blobs fs'
  | call {blobs fs blob} (seen : List UInt8 → Option (List (Option Entry))) (auginsZipPath : Path) :
      Calls reader stagingSubdir cacheRoot ok blobs fs → readFileBytes fs auginsZipPath = some blob →
        Attempt reader seen blob → ok seen fs blob →
          Calls reader stagingSubdir cacheRoot ok (blobs ++ [blob])
            (extractAuginsZip seen fs auginsZipPath stagingSubdir cacheRoot).2.2

theorem Elsewhere.resolve {fs fs' : Disk} (h : Elsewhere dest fs fs') : resolve fs' path = resolve fs path := by
  unfold Extract.resolve start
  rw [h.cwd]

theorem StampsTell.elsewhere {reader : List UInt8 → Option (List (Option Entry))} (hdest : dest ≠ []) {fs fs' : Disk}
    (h : StampsTell reader dest blobs fs) (helse : Elsewhere dest fs fs') : StampsTell reader dest blobs fs' := by
  intro size hsize
  obtain ⟨bytes, hnode, hread⟩ := hsize
  have hbelow : resolve fs dest <:+ resolve fs (stampPath dest) := by
    rw [resolve_stampPath fs hdest]
    exact List.suffix_cons _ _
  unfold Holds at hnode
  rw [helse.resolve, helse.inside _ hbelow] at hnode
  obtain ⟨blob, hblob, hlen, entries, hentries, hcomplete⟩ := h size ⟨bytes, hnode, hread⟩
  refine ⟨blob, hblob, hlen, entries, hentries, fun e he hacc => ?_⟩
  obtain ⟨data, hdata, hholds⟩ := hcomplete e he hacc
  refine ⟨data, hdata, ?_⟩
  have hinside : resolve fs dest <:+ resolve fs (inDest dest e.filename) := by
    rw [resolve_inDest fs hdest hacc.2]
    exact List.suffix_append _ _
  unfold Holds
  rw [helse.resolve, helse.inside _ hinside]
  exact hholds

theorem extractAuginsZip_tells {fs : Disk} {auginsZipPath stagingSubdir cacheRoot : Path}
    (htells : StampsTell reader (cacheRoot ++ '/' :: stagingSubdir) blobs fs)
    (hread : readFileBytes fs auginsZipPath = some blob) (hattempt : Attempt reader seen blob)
    (hok : Harmless reader seen (cacheRoot ++ '/' :: stagingSubdir) fs blob) :
    StampsTell reader (cacheRoot ++ '/' :: stagingSubdir) (blobs ++ [blob])
        (extractAuginsZip seen fs auginsZipPath stagingSubdir cacheRoot).2.2 ∧
      ((∀ b ∈ blobs, b.length = blob.length → b = blob) →
        (extractAuginsZip seen fs auginsZipPath stagingSubdir cacheRoot).1 = true →
          ∀ entries, reader blob = some entries →
            Complete (extractAuginsZip seen fs auginsZipPath stagingSubdir cacheRoot).2.2
              (cacheRoot ++ '/' :: stagingSubdir) entries) := by
  have hdest : cacheRoot ++ '/' :: stagingSubdir ≠ [] := by simp
  unfold extractAuginsZip
  dsimp only
  generalize cacheRoot ++ '/' :: stagingSubdir = dest at *
  rw [hread]
  by_cases hcached : readSizeStamp fs dest = some blob.length
  · simp only [if_pos hcached]
    refine ⟨fun size hsize => ?_, fun hsizes _ entries hentries => ?_⟩
    · obtain ⟨b, hb, h⟩ := htells size hsize
      exact ⟨b, List.mem_append_left _ hb, h⟩
    · -- the stamp has this archive's size, so it is this archive's
      obtain ⟨b, hb, hlen, entries', hentries', hcomplete⟩ := htells _ (stamped_of_readSizeStamp hcached)
      obtain rfl := hsizes b hb hlen
      rw [hentries] at hentries'
      cases hentries'
      exact hcomplete
  · simp only [if_neg hcached]
    obtain hunwritten | ⟨hnamed, hroom, hstamp⟩ := hok.resolve_left hcached
    · refine ⟨fun size hsize => ?_, fun _ hsuccess => ?_⟩
      · obtain ⟨b, hb, h⟩ := htells.unwritten hunwritten size hsize
        exact ⟨b, List.mem_append_left _ hb, h⟩
      · rw [(extractAll_unwritten hunwritten).1] at hsuccess
        cases hsuccess
    · obtain ⟨hafter, hcomplete⟩ := extractAll_tells hdest hattempt hnamed hroom hstamp blobs
      exact ⟨hafter, fun _ => hcomplete⟩

theorem calls_tell {reader : List UInt8 → Option (List (Option Entry))} {stagingSubdir cacheRoot : Path}
    {blobs : List (List UInt8)} {fs : Disk} (h : Calls reader stagingSubdir cacheRoot
      (fun seen => Harmless reader seen (cacheRoot ++ '/' :: stagingSubdir)) blobs fs) :
    StampsTell reader (cacheRoot ++ '/' :: stagingSubdir) blobs fs := by
  induction h with
  | none hnone => exact fun size hsize => absurd hsize (hnone size)
  | elsewhere _ helse ih => exact ih.elsewhere (by simp) helse
  | call seen path _ hread hattempt hok ih => exact (extractAuginsZip_tells ih hread hattempt hok).1

/-- When no call of a run harms, a call that succeeds leaves every file of its archive as the archive has it. -/
theorem extracted_complete (reader seen : List UInt8 → Option (List (Option Entry)))
    (auginsZipPath stagingSubdir cacheRoot : Path) (blobs : List (List UInt8)) (blob : List UInt8) (fs : Disk)
    (hcalls : Calls reader stagingSubdir cacheRoot
      (fun seen => Harmless reader seen (cacheRoot ++ '/' :: stagingSubdir)) blobs fs)
    (hread : readFileBytes fs auginsZipPath = some blob) (hattempt : Attempt reader seen blob)
    (hok : Harmless reader seen (cacheRoot ++ '/' :: stagingSubdir) fs blob)
    (hsizes : ∀ b ∈ blobs, b.length = blob.length → b = blob)
    (hsuccess : (extractAuginsZip seen fs auginsZipPath stagingSubdir cacheRoot).1 = true) :
    ∀ entries, reader blob = some entries →
      Complete (extractAuginsZip seen fs auginsZipPath stagingSubdir cacheRoot).2.2
        (cacheRoot ++ '/' :: stagingSubdir) entries :=
  (extractAuginsZip_tells (calls_tell hcalls) hread hattempt hok).2 hsizes hsuccess

theorem attempt_refl (reader : List UInt8 → Option (List (Option Entry))) (blob : List UInt8) :
    Attempt reader reader blob := fun entries h =>
  ⟨entries, h, List.forall₂_same.2 fun _ _ => Or.inl rfl⟩

/-! ## Two versions of a module -/

/-- An archive of one file, `f`, that holds `1`. -/
def firstZip : List UInt8 :=
  [80, 75, 3, 4, 20, 0, 0, 0, 0, 0, 0, 0, 33, 0, 183, 239, 220, 131, 1, 0, 0, 0, 1, 0, 0, 0, 1, 0, 0, 0, 102,
    49, 80, 75, 1, 2, 20, 0, 20, 0, 0, 0, 0, 0, 0, 0, 33, 0, 183, 239, 220, 131, 1, 0, 0, 0, 1, 0, 0, 0, 1,
    0, 0, 0, 0, 0, 0, 0, 0, 0, 0, 0, 128, 1, 0, 0, 0, 0, 102, 80, 75, 5, 6, 0, 0, 0, 0, 1, 0, 1, 0, 47, 0, 0,
    0, 32, 0, 0, 0, 0, 0]

/-- The next version: `f` holds `22`. -/
def secondZip : List UInt8 :=
  [80, 75, 3, 4, 20, 0, 0, 0, 0, 0, 0, 0, 33, 0, 14, 23, 126, 100, 2, 0, 0, 0, 2, 0, 0, 0, 1, 0, 0, 0, 102,
    50, 50, 80, 75, 1, 2, 20, 0, 20, 0, 0, 0, 0, 0, 0, 0, 33, 0, 14, 23, 126, 100, 2, 0, 0, 0, 2, 0, 0, 0, 1,
    0, 0, 0, 0, 0, 0, 0, 0, 0, 0, 0, 128, 1, 0, 0, 0, 0, 102, 80, 75, 5, 6, 0, 0, 0, 0, 1, 0, 1, 0, 47, 0, 0,
    0, 33, 0, 0, 0, 0, 0]

def versionReader (blob : List UInt8) : Option (List (Option Entry)) :=
  if blob = firstZip then some [some ⟨['f'], false, some [49]⟩]
  else if blob = secondZip then some [some ⟨['f'], false, some [50, 50]⟩]
  else none

/-- The directories `/c` and `/c/s` and the archives `/m` and `/n`. -/
def versionNode (loc : Location) : Option (Node UInt8) :=
  if loc = [] ∨ loc = [['c']] ∨ loc = [['s'], ['c']] then some .dir
  else if loc = [['m']] then some (.file firstZip)
  else if loc = [['n']] then some (.file secondZip)
  else none

theorem versionNode_around (name : Name) (loc : Location) (h : versionNode (name :: loc) ≠ none) :
    versionNode loc = some .dir := by
  unfold versionNode at h ⊢
  split at h
  · next hdir => rcases hdir with h | h | h <;> cases h <;> rfl
  · split at h
    · next hfile =>
      cases hfile
      rfl
    · split at h
      · next hfile =>
        cases hfile
        rfl
      · exact (h rfl).elim

/-- A disk that has room for one byte of `f`. -/
def versionDisk : Disk where
  node := versionNode
  cwd := []
  refuses _ := false
  room loc := if loc = [['f'], ['s'], ['c']] then 1 else 1000
  touched := []
  root := rfl
  around := versionNode_around
  cwd_dir := rfl

theorem versionDisk_unstamped (size : ℕ) : ¬ Stamped versionDisk "/c/s".toList size := by
  rintro ⟨bytes, hnode, -⟩
  have hnone : versionDisk.node (resolve versionDisk (stampPath "/c/s".toList)) = none := rfl
  unfold Holds at hnode
  rw [hnone] at hnode
  cases hnode

theorem firstVersion_wellNamed (entries : List (Option Entry)) (h : versionReader firstZip = some entries) :
    WellNamed entries := by
  have hentries : some [some ⟨['f'], false, some [49]⟩] = some entries := h
  cases hentries
  refine ⟨fun e e' he he' _ _ _ => ?_, fun e he _ => ?_⟩
  · rw [Option.some.inj (List.mem_singleton.1 he), Option.some.inj (List.mem_singleton.1 he')]
  · rw [Option.some.inj (List.mem_singleton.1 he)]
    decide

/-- The first version extracted twice: the second call finds the stamp of the first. -/
theorem extracted_complete_again :
    Complete (extractAuginsZip versionReader
      (extractAuginsZip versionReader versionDisk "/m".toList "s".toList "/c".toList).2.2
        "/m".toList "s".toList "/c".toList).2.2 "/c/s".toList [some ⟨['f'], false, some [49]⟩] := by
  refine extracted_complete versionReader versionReader "/m".toList "s".toList "/c".toList [firstZip] firstZip _ ?_
    ?_ (attempt_refl _ _) ?_ ?_ ?_ _ rfl
  · refine Calls.call versionReader "/m".toList (.none versionDisk_unstamped) (by decide) (attempt_refl _ _) ?_
    exact Or.inr (Or.inr ⟨firstVersion_wellNamed, by decide, Or.inl versionDisk_unstamped⟩)
  · decide
  · exact Or.inl (by decide)
  · intro b hb _
    exact List.mem_singleton.1 hb
  · decide

/-- The second version cannot be written in full, and leaves its first byte in `f` and the stamp of the first
version: the next call for the first version succeeds with that. -/
theorem staleStamp_hits : ¬ ∀ (reader seen : List UInt8 → Option (List (Option Entry)))
    (auginsZipPath stagingSubdir cacheRoot : Path) (blobs : List (List UInt8)) (blob : List UInt8) (fs : Disk),
    Calls reader stagingSubdir cacheRoot (fun _ _ _ => True) blobs fs →
      readFileBytes fs auginsZipPath = some blob → Attempt reader seen blob →
        (∀ b ∈ blobs, ∀ b' ∈ blob :: blobs, b.length = b'.length → b = b') →
          (extractAuginsZip seen fs auginsZipPath stagingSubdir cacheRoot).1 = true →
            ∀ entries, reader blob = some entries →
              Complete (extractAuginsZip seen fs auginsZipPath stagingSubdir cacheRoot).2.2
                (cacheRoot ++ '/' :: stagingSubdir) entries := by
  intro h
  have hfirst : Calls versionReader "s".toList "/c".toList (fun _ _ _ => True) [firstZip] _ :=
    .call versionReader "/m".toList (.none versionDisk_unstamped) (by decide) (attempt_refl _ _) trivial
  have hsecond : Calls versionReader "s".toList "/c".toList (fun _ _ _ => True) [firstZip, secondZip] _ :=
    .call versionReader "/n".toList hfirst (by decide) (attempt_refl _ _) trivial
  have hcomplete := h versionReader versionReader "/m".toList "s".toList "/c".toList _ firstZip _ hsecond (by decide)
    (attempt_refl _ _) (by decide) (by decide) [some ⟨['f'], false, some [49]⟩] rfl
  obtain ⟨data, hdata, hholds⟩ := hcomplete ⟨['f'], false, some [49]⟩ List.mem_cons_self (by decide)
  cases hdata
  -- what is there is the second version's
  cases hholds

end AugmentedInsanity.Augins.Extract
