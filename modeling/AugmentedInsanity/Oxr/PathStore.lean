/-
The paths of an instance (`oxr_path_store.c`): each string that the application names gets an id, by a hash set from
strings to paths and an array from ids to paths. The array is enlarged with memory as realloc hands it out, and
its slots are read before they are written. So ids are valid exactly when they were given out as long as that
memory holds null pointers where no path is put (`pathStore_iff`).
-/
import AugmentedInsanity.Lib.Runs
import AugmentedInsanity.Oxr.Errors

namespace AugmentedInsanity.Oxr

open Runs

/-! ## The store -/

abbrev PathString := List UInt8

/-- `XrPath`; `XR_NULL_PATH` is zero. -/
abbrev XrPath := ℕ

/-- The pointers in an array of paths: where in memory the path is, `none` for the null pointer. -/
abbrev PathSlots := ℕ → Option ℕ

/-- `struct oxr_path` with the item that follows it. -/
structure OxrPath where
  id : XrPath
  string : PathString
  deriving DecidableEq

/-- `struct oxr_path_store`, and the paths it has allocated. The array is `none` when there is none. -/
structure OxrPathStore where
  pathStore : PathString → Option ℕ
  pathArray : Option PathSlots
  pathArrayLength : ℕ
  pathNum : ℕ
  heap : List OxrPath

namespace OxrPathStore

/-! ## Functions

Memory comes with a call: whether calloc has any for a path, and what is in the memory that realloc adds to the array.
A function gives `none` where it follows a pointer to no path or no array. -/

/-- `u_realloc_or_free`: what the old array had stays. -/
def reallocOrFree (slots : Option PathSlots) (length : ℕ) (memory : Option PathSlots) : Option PathSlots :=
  memory.map fun fresh i => if i < length then slots.elim none (· i) else fresh i

/-- `oxr_path_store_init`. -/
def init (memory : Option PathSlots) : OxrPathStore where
  pathStore _ := none
  pathArray := reallocOrFree none 0 memory
  pathArrayLength := 64
  pathNum := 1
  heap := []

def getOrNull (store : OxrPathStore) (xrPath : XrPath) : Option (Option ℕ) :=
  if store.pathArrayLength ≤ xrPath then some none else store.pathArray.map (· xrPath)

/-- `oxr_path_store_is_valid`. -/
def isValid (store : OxrPathStore) (xrPath : XrPath) : Option Bool := (store.getOrNull xrPath).map Option.isSome

def getString (store : OxrPathStore) (xrPath : XrPath) : Option (Except XrError PathString) :=
  match store.getOrNull xrPath with
  | none => none
  | some none => some (.error .pathInvalid)
  | some (some pointer) => store.heap[pointer]?.map fun path => .ok path.string

/-- The loop of `ensure_array_length`. -/
def grownSize (newSize num : ℕ) : ℕ := if newSize < num then grownSize (newSize + 64) num else newSize
termination_by num - newSize

/-- `ensure_array_length`, which always succeeds. -/
def ensureArrayLength (store : OxrPathStore) (memory : Option PathSlots) : OxrPathStore × XrPath :=
  if store.pathNum + 1 < store.pathArrayLength then ({ store with pathNum := store.pathNum + 1 }, store.pathNum)
  else
    ({ store with
        pathArray := reallocOrFree store.pathArray store.pathArrayLength memory
        pathArrayLength := grownSize store.pathArrayLength (store.pathNum + 1)
        pathNum := store.pathNum + 1 }, store.pathNum)

/-- `insert_path`, of the path at the pointer. -/
def insertPath (store : OxrPathStore) (memory : Option PathSlots) (pointer : ℕ) (string : PathString) :
    Option (OxrPathStore × XrPath) :=
  let (store, id) :=
    ensureArrayLength { store with pathStore := Function.update store.pathStore string (some pointer) } memory
  store.pathArray.map fun slots =>
    ({ store with
        heap := store.heap.set pointer ⟨id, string⟩
        pathArray := some (Function.update slots id (some pointer)) }, id)

def allocateAndInsert (store : OxrPathStore) (calloc : Bool) (memory : Option PathSlots) (string : PathString) :
    Option (OxrPathStore × Except XrError XrPath) :=
  if calloc then
    (insertPath { store with heap := store.heap ++ [⟨0, string⟩] } memory store.heap.length string).map
      fun (store, id) => (store, .ok id)
  else some (store, .error .runtimeFailure)

def getOrCreate (store : OxrPathStore) (calloc : Bool) (memory : Option PathSlots) (string : PathString) :
    Option (OxrPathStore × Except XrError XrPath) :=
  match store.pathStore string with
  | some pointer => store.heap[pointer]?.map fun path => (store, .ok path.id)
  | none => store.allocateAndInsert calloc memory string

end OxrPathStore

/-! ## Runs -/

/-- A call of `oxr_path_store_get_or_create`, with the memory there is for it. -/
structure PathCall where
  string : PathString
  calloc : Bool
  memory : Option PathSlots

structure PathRun where
  store : OxrPathStore
  returned : List (PathString × XrPath)

def pathStep (s : PathRun) (call : PathCall) : Option PathRun :=
  (s.store.getOrCreate call.calloc call.memory call.string).map fun
    | (store, .ok id) => ⟨store, (call.string, id) :: s.returned⟩
    | (store, .error _) => ⟨store, s.returned⟩

namespace PathRun

/-- Equal strings have equal paths; the valid paths are those that were returned, with the string they were returned
for. -/
structure Sound (s : PathRun) : Prop where
  same : ∀ e ∈ s.returned, ∀ e' ∈ s.returned, e.2 = e'.2 ↔ e.1 = e'.1
  string : ∀ string id, s.store.getString id = some (.ok string) ↔ (string, id) ∈ s.returned
  valid : ∀ id, ∃ b, s.store.isValid id = some b ∧ (b = true ↔ ∃ string, (string, id) ∈ s.returned)
  null : ∀ e ∈ s.returned, e.2 ≠ 0

def Keeps (s : PathRun) (call : PathCall) : Prop := ∃ t, pathStep s call = some t ∧ t.Sound

/-- A call makes a path that the array has no room for. -/
def Grows (s : PathRun) (call : PathCall) : Prop :=
  s.store.pathStore call.string = none ∧ call.calloc = true ∧ s.store.pathArrayLength ≤ s.store.pathNum + 1

/-- If the array has to grow then there is memory, and it holds null pointers except where the path is put. -/
def Zeroed (s : PathRun) (call : PathCall) : Prop :=
  s.Grows call → ∃ fresh, call.memory = some fresh ∧
    ∀ i, s.store.pathArrayLength ≤ i → i < OxrPathStore.grownSize s.store.pathArrayLength (s.store.pathNum + 1) →
      i ≠ s.store.pathNum → fresh i = none

/-- Paths are numbered as they are in memory, and both ways of finding them lead there. -/
structure Inv (s : PathRun) : Prop where
  array : ∃ slots, s.store.pathArray = some slots ∧
    ∀ id : ℕ, id < s.store.pathArrayLength → ∀ a : ℕ, slots id = some a ↔ id = a + 1 ∧ a < s.store.heap.length
  num : s.store.pathNum = s.store.heap.length + 1
  num_le : s.store.pathNum ≤ s.store.pathArrayLength
  id : ∀ (a : ℕ) path, s.store.heap[a]? = some path → path.id = a + 1
  found : ∀ string a, s.store.pathStore string = some a ↔ ∃ id, s.store.heap[a]? = some ⟨id, string⟩
  returned : ∀ string id, (string, id) ∈ s.returned ↔ ∃ a, s.store.pathStore string = some a ∧ id = a + 1

end PathRun

namespace OxrPathStore

theorem le_grownSize (newSize num : ℕ) : newSize ≤ grownSize newSize num ∧ num ≤ grownSize newSize num := by
  induction newSize using grownSize.induct num with
  | case1 newSize h ih =>
    rw [grownSize, if_pos h]
    omega
  | case2 newSize h =>
    rw [grownSize, if_neg h]
    omega

end OxrPathStore

namespace PathRun

/-! ## What the invariant says -/

section
variable {s : PathRun}

theorem Inv.getOrNull (h : s.Inv) (id : ℕ) :
    ∃ r, s.store.getOrNull id = some r ∧ ∀ a : ℕ, r = some a ↔ id = a + 1 ∧ a < s.store.heap.length := by
  obtain ⟨slots, harray, hslots⟩ := h.array
  have hnum := h.num
  have hle := h.num_le
  unfold OxrPathStore.getOrNull
  split
  · rename_i hlen
    refine ⟨none, rfl, fun a => ?_⟩
    constructor
    · rintro ⟨⟩
    · rintro ⟨rfl, hlt⟩
      omega
  · rename_i hlen
    rw [harray]
    exact ⟨_, rfl, hslots id (by omega)⟩

theorem Inv.mem_returned (h : s.Inv) (string : PathString) (id : XrPath) :
    (string, id) ∈ s.returned ↔ ∃ a, s.store.heap[a]? = some ⟨id, string⟩ ∧ id = a + 1 := by
  rw [h.returned]
  constructor
  · rintro ⟨a, hfound, rfl⟩
    obtain ⟨id, hheap⟩ := (h.found string a).1 hfound
    obtain rfl : id = a + 1 := h.id a _ hheap
    exact ⟨a, hheap, rfl⟩
  · rintro ⟨a, hheap, rfl⟩
    exact ⟨a, (h.found string a).2 ⟨_, hheap⟩, rfl⟩

theorem Inv.same (h : s.Inv) {string string' : PathString} {id id' : XrPath} (he : (string, id) ∈ s.returned)
    (he' : (string', id') ∈ s.returned) : id = id' ↔ string = string' := by
  obtain ⟨a, hheap, rfl⟩ := (h.mem_returned string id).1 he
  obtain ⟨a', hheap', rfl⟩ := (h.mem_returned string' id').1 he'
  constructor
  · intro hid
    obtain rfl : a = a' := Nat.succ.inj hid
    rw [hheap] at hheap'
    cases hheap'
    rfl
  · intro hstring
    cases hstring
    have hfound := (h.found string a).2 ⟨_, hheap⟩
    rw [(h.found string a').2 ⟨_, hheap'⟩] at hfound
    cases hfound
    rfl

theorem Inv.returned_of_lt (h : s.Inv) {a : ℕ} (hlt : a < s.store.heap.length) :
    (s.store.heap[a].string, a + 1) ∈ s.returned := by
  have hheap := List.getElem?_eq_getElem hlt
  refine (h.mem_returned _ _).2 ⟨a, ?_, rfl⟩
  rw [hheap, ← h.id a _ hheap]

theorem Inv.getString (h : s.Inv) (string : PathString) (id : XrPath) :
    s.store.getString id = some (.ok string) ↔ (string, id) ∈ s.returned := by
  rw [OxrPathStore.getString]
  obtain ⟨r, hr, hpath⟩ := h.getOrNull id
  rw [hr]
  cases r with
  | none =>
    rw [h.mem_returned]
    constructor
    · rintro ⟨⟩
    · rintro ⟨a, hheap, rfl⟩
      have hlt := (List.getElem?_eq_some_iff.1 hheap).1
      cases (hpath a).2 ⟨rfl, hlt⟩
  | some a =>
    obtain ⟨rfl, hlt⟩ := (hpath a).1 rfl
    have hmem := h.returned_of_lt hlt
    simp only [List.getElem?_eq_getElem hlt, Option.map_some, Option.some.injEq, Except.ok.injEq]
    constructor
    · rintro rfl
      exact hmem
    · intro hreturned
      exact (h.same hmem hreturned).1 rfl

theorem Inv.isValid (h : s.Inv) (id : XrPath) :
    ∃ b, s.store.isValid id = some b ∧ (b = true ↔ ∃ string, (string, id) ∈ s.returned) := by
  obtain ⟨r, hr, hpath⟩ := h.getOrNull id
  refine ⟨r.isSome, by rw [OxrPathStore.isValid, hr]; rfl, ?_⟩
  rw [Option.isSome_iff_exists]
  constructor
  · rintro ⟨a, ha⟩
    obtain ⟨rfl, hlt⟩ := (hpath a).1 ha
    exact ⟨_, h.returned_of_lt hlt⟩
  · rintro ⟨string, hreturned⟩
    obtain ⟨a, hheap, rfl⟩ := (h.mem_returned string id).1 hreturned
    exact ⟨a, (hpath a).2 ⟨rfl, (List.getElem?_eq_some_iff.1 hheap).1⟩⟩

theorem Inv.sound (h : s.Inv) : s.Sound := by
  constructor
  · intro e he e' he'
    exact h.same he he'
  · exact h.getString
  · exact h.isValid
  · rintro ⟨string, id⟩ he
    obtain ⟨a, -, rfl⟩ := (h.mem_returned string id).1 he
    exact Nat.succ_ne_zero a

end

/-! ## Steps -/

section
variable {s t : PathRun} {call : PathCall}

theorem Inv.step_found (h : s.Inv) {a : ℕ} (hfound : s.store.pathStore call.string = some a) :
    pathStep s call = some ⟨s.store, (call.string, a + 1) :: s.returned⟩ := by
  obtain ⟨id, hheap⟩ := (h.found call.string a).1 hfound
  obtain rfl : id = a + 1 := h.id a _ hheap
  simp only [pathStep, OxrPathStore.getOrCreate, hfound, hheap, Option.map_some]

theorem Inv.found_kept (h : s.Inv) {a : ℕ} (hfound : s.store.pathStore call.string = some a) :
    PathRun.Inv ⟨s.store, (call.string, a + 1) :: s.returned⟩ := by
  refine ⟨h.array, h.num, h.num_le, h.id, h.found, fun string id => ?_⟩
  rw [List.mem_cons, h.returned, or_iff_right_iff_imp, Prod.mk.injEq]
  rintro ⟨rfl, rfl⟩
  exact ⟨a, hfound, rfl⟩

def inserted (s : PathRun) (string : PathString) (slots : PathSlots) (length : ℕ) : PathRun where
  store :=
    { pathStore := Function.update s.store.pathStore string (some s.store.heap.length)
      pathArray := some (Function.update slots s.store.pathNum (some s.store.heap.length))
      pathArrayLength := length
      pathNum := s.store.pathNum + 1
      heap := s.store.heap ++ [⟨s.store.pathNum, string⟩] }
  returned := (string, s.store.pathNum) :: s.returned

theorem step_new (hnew : s.store.pathStore call.string = none) (hcalloc : call.calloc = true) :
    pathStep s call =
      if s.store.pathNum + 1 < s.store.pathArrayLength then
        s.store.pathArray.map fun slots => s.inserted call.string slots s.store.pathArrayLength
      else
        (OxrPathStore.reallocOrFree s.store.pathArray s.store.pathArrayLength call.memory).map fun slots =>
          s.inserted call.string slots (OxrPathStore.grownSize s.store.pathArrayLength (s.store.pathNum + 1)) := by
  have hset : ∀ path : OxrPath, (s.store.heap ++ [(⟨0, call.string⟩ : OxrPath)]).set s.store.heap.length path =
      s.store.heap ++ [path] := by
    intro path
    rw [List.set_append_right _ _ (Nat.le_refl _), Nat.sub_self]
    rfl
  simp only [pathStep, OxrPathStore.getOrCreate, hnew, OxrPathStore.allocateAndInsert, hcalloc, if_true,
    OxrPathStore.insertPath, OxrPathStore.ensureArrayLength]
  split <;> simp only [Option.map_map] <;> congr 1 <;> funext slots <;> simp only [Function.comp, hset, inserted]

theorem getElem?_concat_iff (heap : List OxrPath) (path path' : OxrPath) (a : ℕ) :
    (heap ++ [path])[a]? = some path' ↔ heap[a]? = some path' ∨ a = heap.length ∧ path' = path := by
  rcases Nat.lt_trichotomy a heap.length with hlt | rfl | hgt
  · rw [List.getElem?_append_left hlt]
    simp [Nat.ne_of_lt hlt]
  · rw [List.getElem?_concat_length, List.getElem?_eq_none (Nat.le_refl _)]
    simp [eq_comm]
  · rw [List.getElem?_eq_none (by simp; omega), List.getElem?_eq_none (by omega)]
    simp [Nat.ne_of_gt hgt]

theorem Inv.inserted_found (h : s.Inv) {string : PathString} (hnew : s.store.pathStore string = none)
    (slots : PathSlots) (length : ℕ) (string' : PathString) (a : ℕ) :
    (s.inserted string slots length).store.pathStore string' = some a ↔
      ∃ id, (s.inserted string slots length).store.heap[a]? = some ⟨id, string'⟩ := by
  simp only [PathRun.inserted, getElem?_concat_iff, OxrPath.mk.injEq]
  by_cases hstring : string' = string
  · subst hstring
    rw [Function.update_self, Option.some.injEq]
    constructor
    · rintro rfl
      exact ⟨_, .inr ⟨rfl, rfl, rfl⟩⟩
    · rintro ⟨id, hheap | ⟨rfl, -⟩⟩
      · have hfound := (h.found string' a).2 ⟨id, hheap⟩
        rw [hnew] at hfound
        cases hfound
      · rfl
  · rw [Function.update_of_ne hstring, h.found]
    simp only [hstring, and_false, or_false]

theorem Inv.inserted (h : s.Inv) {string : PathString} (hnew : s.store.pathStore string = none) {slots : PathSlots}
    {length : ℕ} (hlength : s.store.pathNum + 1 ≤ length)
    (hslots : ∀ id : ℕ, id < length → id ≠ s.store.pathNum →
      ∀ a : ℕ, slots id = some a ↔ id = a + 1 ∧ a < s.store.heap.length) :
    (s.inserted string slots length).Inv := by
  have hnum := h.num
  refine ⟨⟨_, rfl, ?_⟩, ?_, hlength, ?_, h.inserted_found hnew slots length, ?_⟩
  · intro id hid a
    simp only [PathRun.inserted, List.length_append, List.length_singleton]
    by_cases hnew : id = s.store.pathNum
    · subst hnew
      rw [Function.update_self, Option.some.injEq]
      omega
    · rw [Function.update_of_ne hnew, hslots id hid hnew]
      omega
  · simp only [PathRun.inserted, List.length_append, List.length_singleton, hnum]
  · intro a path hheap
    simp only [PathRun.inserted, getElem?_concat_iff] at hheap
    rcases hheap with hheap | ⟨rfl, rfl⟩
    · exact h.id a path hheap
    · exact hnum
  · intro string' id
    simp only [PathRun.inserted, List.mem_cons, Prod.mk.injEq]
    by_cases hstring : string' = string
    · subst hstring
      rw [Function.update_self, h.returned, hnew]
      simp [hnum]
    · rw [Function.update_of_ne hstring, h.returned]
      simp [hstring]

theorem Inv.kept (h : s.Inv) (hzeroed : s.Zeroed call) : ∃ t, pathStep s call = some t ∧ t.Inv := by
  have hnum := h.num
  obtain ⟨slots, harray, hslots⟩ := h.array
  cases hfound : s.store.pathStore call.string with
  | some a => exact ⟨_, h.step_found hfound, h.found_kept hfound⟩
  | none =>
    cases hcalloc : call.calloc with
    | false =>
      refine ⟨s, ?_, h⟩
      simp only [pathStep, OxrPathStore.getOrCreate, hfound, OxrPathStore.allocateAndInsert, hcalloc, Option.map_some,
        Bool.false_eq_true, if_false]
    | true =>
      have hstep := step_new hfound hcalloc
      by_cases hroom : s.store.pathNum + 1 < s.store.pathArrayLength
      · rw [if_pos hroom, harray, Option.map_some] at hstep
        exact ⟨_, hstep, h.inserted hfound (by omega) fun id hid _ => hslots id hid⟩
      · rw [if_neg hroom, harray] at hstep
        obtain ⟨fresh, hmemory, hfresh⟩ := hzeroed ⟨hfound, hcalloc, by omega⟩
        rw [hmemory] at hstep
        refine ⟨_, hstep, h.inserted hfound (OxrPathStore.le_grownSize _ _).2 fun id hid hne a => ?_⟩
        by_cases hold : id < s.store.pathArrayLength
        · simp only [if_pos hold]
          exact hslots id hold a
        · simp only [if_neg hold, hfresh id (by omega) hid hne]
          have hle := h.num_le
          constructor
          · rintro ⟨⟩
          · rintro ⟨rfl, hlt⟩
            omega

theorem Inv.zeroed (h : s.Inv) (hkeeps : s.Keeps call) : s.Zeroed call := by
  rintro ⟨hnew, hcalloc, hfull⟩
  have hnum := h.num
  have hle := h.num_le
  obtain ⟨t, ht, hsound⟩ := hkeeps
  rw [step_new hnew hcalloc, if_neg (by omega)] at ht
  cases hmemory : call.memory with
  | none =>
    rw [hmemory] at ht
    cases ht
  | some fresh =>
    rw [hmemory] at ht
    cases ht
    refine ⟨fresh, rfl, fun i hold hsize hi => ?_⟩
    obtain ⟨b, hb, hreturned⟩ := hsound.valid i
    simp only [OxrPathStore.isValid, OxrPathStore.getOrNull, PathRun.inserted, if_neg (Nat.not_le.2 hsize),
      Option.map_some, Function.update_of_ne hi, if_neg (Nat.not_lt.2 hold), Option.some.injEq] at hb
    cases hpointer : fresh i with
    | none => rfl
    | some a =>
      rw [hpointer] at hb
      obtain ⟨string, hmem⟩ := hreturned.1 hb.symm
      rcases List.mem_cons.1 hmem with hmem | hmem
      · exact absurd (Prod.mk.inj hmem).2 hi
      · obtain ⟨a, hheap, rfl⟩ := (h.mem_returned string i).1 hmem
        have := (List.getElem?_eq_some_iff.1 hheap).1
        omega

theorem Inv.keeps_iff (h : s.Inv) (call : PathCall) : s.Keeps call ↔ s.Zeroed call := by
  constructor
  · exact h.zeroed
  · intro hzeroed
    obtain ⟨t, ht, hinv⟩ := h.kept hzeroed
    exact ⟨t, ht, hinv.sound⟩

end

/-! ## From the start -/

def create (memory : Option PathSlots) : PathRun := ⟨.init memory, []⟩

/-- There is memory for the first array, and it holds null pointers. -/
def InitZeroed (memory : Option PathSlots) : Prop := ∃ fresh, memory = some fresh ∧ ∀ i < 64, fresh i = none

variable {memory : Option PathSlots}

theorem inv_create (h : InitZeroed memory) : (create memory).Inv := by
  obtain ⟨fresh, rfl, hfresh⟩ := h
  refine ⟨⟨_, rfl, ?_⟩, rfl, ?_, ?_, ?_, ?_⟩
  · intro id hid a
    have hnone : fresh id = none := hfresh id hid
    simp [hnone, create, OxrPathStore.init]
  · show 1 ≤ 64
    omega
  · intro a path hheap
    simp [create, OxrPathStore.init] at hheap
  · intro string a
    simp [create, OxrPathStore.init]
  · intro string id
    simp [create, OxrPathStore.init]

theorem initZeroed_of_sound (h : (create memory).Sound) : InitZeroed memory := by
  cases memory with
  | none =>
    obtain ⟨b, hb, -⟩ := h.valid 0
    cases hb
  | some fresh =>
    refine ⟨fresh, rfl, fun i hi => ?_⟩
    obtain ⟨b, hb, hreturned⟩ := h.valid i
    have hget : (create (some fresh)).store.isValid i = some (fresh i).isSome := by
      have hroom : ¬ (create (some fresh)).store.pathArrayLength ≤ i := Nat.not_le.2 hi
      rw [OxrPathStore.isValid, OxrPathStore.getOrNull, if_neg hroom]
      rfl
    rw [hget, Option.some.injEq] at hb
    cases hpointer : fresh i with
    | none => rfl
    | some a =>
      rw [hpointer] at hb
      obtain ⟨string, hmem⟩ := hreturned.1 hb.symm
      cases hmem

/-- In a new store and after every call all is sound, exactly when each time the array gets memory the slots where no
path is put hold null pointers. -/
theorem pathStore_iff (memory : Option PathSlots) (calls : List PathCall) :
    (create memory).Sound ∧ Along pathStep Keeps (create memory) calls ↔
      InitZeroed memory ∧ Along pathStep Zeroed (create memory) calls := by
  have hstep : ∀ s call t, Inv s → Zeroed s call → pathStep s call = some t → Inv t := by
    intro s call t hs hzeroed ht
    obtain ⟨t', ht', hinv⟩ := hs.kept hzeroed
    rw [ht] at ht'
    cases ht'
    exact hinv
  constructor
  · rintro ⟨hsound, hkeeps⟩
    have hzeroed := initZeroed_of_sound hsound
    exact ⟨hzeroed, (along_iff (fun s call hs => hs.keeps_iff call) hstep (inv_create hzeroed) calls).1 hkeeps⟩
  · rintro ⟨hzeroed, halong⟩
    have hinv := inv_create hzeroed
    exact ⟨hinv.sound, (along_iff (fun s call hs => hs.keeps_iff call) hstep hinv calls).2 halong⟩

/-- Memory with something in its first word: the null path is valid before and after a path is made. -/
theorem nullPath_valid :
    ¬ ((create (some fun i => if i = 0 then some 7 else none)).Sound ∧
      Along pathStep Keeps (create (some fun i => if i = 0 then some 7 else none))
        [⟨[47, 117, 115, 101, 114], true, none⟩]) := by
  rintro ⟨-, halong⟩
  obtain ⟨⟨t, ht, hsound⟩, -⟩ := along_cons.1 halong
  cases ht
  obtain ⟨b, hb, hreturned⟩ := hsound.valid 0
  have hvalid : some true = some b := hb
  cases hvalid
  obtain ⟨string, hmem⟩ := hreturned.1 rfl
  rcases List.mem_cons.1 hmem with hmem | hmem
  · cases (Prod.mk.inj hmem).2
  · cases hmem

end PathRun

end AugmentedInsanity.Oxr
