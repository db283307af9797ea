/-
The part of cJSON that builds trees. An item is a tree: its fields are the label, its list of children the children.
`cJSON_ReplaceItemInObject` takes the first child whose key is the given one up to the case of letters, so putting a
value under a key that was just added changes another child when an earlier key differs by case only (`put_of_match`).
-/
import AugmentedInsanity.Lib.RoseTrees
import Mathlib.Data.List.TakeWhile

namespace AugmentedInsanity.Util.CJson

open RoseTrees

/-! ## Strings -/

/-- What a C string is of these bytes: it ends in front of the first NUL. -/
def cStr (s : List UInt8) : List UInt8 := s.takeWhile (· ≠ 0)

theorem cStr_eq_self_iff {s : List UInt8} : cStr s = s ↔ 0 ∉ s := by
  rw [cStr, List.takeWhile_eq_self_iff]
  constructor
  · intro h h0
    simpa using h 0 h0
  · intro h c hc
    simp only [decide_eq_true_eq]
    rintro rfl
    exact h hc

theorem zero_notMem_cStr (s : List UInt8) : 0 ∉ cStr s := by
  intro h
  simpa using List.mem_takeWhile_imp h

/-- `tolower` in the C locale. -/
def tolower (c : UInt8) : UInt8 := if 0x41 ≤ c ∧ c ≤ 0x5A then c + 0x20 else c

theorem tolower_eq_zero {c : UInt8} (h : tolower c = 0) : c = 0 := by
  unfold tolower at h
  split at h
  · rename_i hupper
    have hnat := congrArg UInt8.toNat h
    simp only [UInt8.le_iff_toNat_le, UInt8.reduceToNat] at hupper
    rw [UInt8.toNat_add] at hnat
    simp only [UInt8.reduceToNat] at hnat
    omega
  · exact h

/-- What is left of a string is at an end when there is nothing left, or at a NUL. -/
def caseInsensitiveStrcmp : List UInt8 → List UInt8 → ℤ
  | [], [] => 0
  | [], d :: _ => 0 - (tolower d).toNat
  | c :: _, [] => (tolower c).toNat
  | c :: s, d :: t =>
    if tolower c = tolower d then if c = 0 then 0 else caseInsensitiveStrcmp s t
    else (tolower c).toNat - (tolower d).toNat

theorem caseInsensitiveStrcmp_eq_zero {s t : List UInt8} (hs : 0 ∉ s) (ht : 0 ∉ t) :
    caseInsensitiveStrcmp s t = 0 ↔ s.map tolower = t.map tolower := by
  induction s generalizing t with
  | nil =>
    cases t with
    | nil => simp [caseInsensitiveStrcmp]
    | cons d t =>
      have hd : tolower d ≠ 0 := fun h => ht (by simp [tolower_eq_zero h])
      have hd' : (tolower d).toNat ≠ 0 := fun h => hd (UInt8.toNat_inj.mp h)
      simp only [caseInsensitiveStrcmp, List.map_nil, List.map_cons, reduceCtorEq, iff_false]
      omega
  | cons c s ih =>
    have hc : c ≠ 0 := fun h => hs (by simp [h])
    cases t with
    | nil =>
      have hc' : (tolower c).toNat ≠ 0 := fun h => hc (tolower_eq_zero (UInt8.toNat_inj.mp h))
      simp only [caseInsensitiveStrcmp, List.map_nil, List.map_cons, reduceCtorEq, iff_false]
      omega
    | cons d t =>
      rw [caseInsensitiveStrcmp]
      split
      · rename_i heq
        simp [heq, ih (fun h => hs (List.mem_cons_of_mem c h)) (fun h => ht (List.mem_cons_of_mem d h))]
      · rename_i hne
        have hnat : (tolower c).toNat ≠ (tolower d).toNat := fun h => hne (UInt8.toNat_inj.mp h)
        simp only [List.map_cons, List.cons.injEq, hne, false_and, iff_false]
        omega

/-! ## Items -/

/-- The type of an item with the value that belongs to it. -/
inductive ItemValue
  | null
  | bool (b : Bool)
  | number (valuedouble : Float)
  | string (valuestring : List UInt8)
  | array
  | object

/-- `string` is the key, of an item that is in an object. -/
structure Fields where
  value : ItemValue
  string : Option (List UInt8)

abbrev CJSON := Rose Fields

def createItem (value : ItemValue) : CJSON := .node ⟨value, none⟩ []

def createNull : CJSON := createItem .null

def createBool (boolean : Bool) : CJSON := createItem (.bool boolean)

def createNumber (num : Float) : CJSON := createItem (.number num)

def createString (string : List UInt8) : CJSON := createItem (.string (cStr string))

def createArray : CJSON := createItem .array

def createObject : CJSON := createItem .object

def isNull (item : CJSON) : Bool :=
  match item.label.value with
  | .null => true
  | _ => false

def named (key : List UInt8) (item : CJSON) : CJSON := .node ⟨item.label.value, some key⟩ item.children

def addItemToArray (array item : CJSON) : CJSON := .node array.label (array.children ++ [item])

def addItemToObject (object : CJSON) (string : List UInt8) (item : CJSON) : CJSON :=
  addItemToArray object (named (cStr string) item)

/-- A name that is `NULL` equals no other. -/
def isNamed (string : List UInt8) (item : CJSON) : Bool :=
  match item.label.string with
  | some key => caseInsensitiveStrcmp (cStr string) key = 0
  | none => false

/-- The position of the child that `get_object_item` finds, without regard to case. -/
def getObjectItem (object : CJSON) (string : List UInt8) : Option ℕ := object.children.findIdx? (isNamed string)

/-- `cJSON_ReplaceItemInObject`, with the position of the replaced child. The result is `none` where the function
returns false. -/
def replaceItemInObject (object : CJSON) (string : List UInt8) (newitem : CJSON) : Option (ℕ × CJSON) :=
  (getObjectItem object string).map fun i =>
    (i, .node object.label (object.children.set i (named (cStr string) newitem)))

theorem isNamed_iff {string key : List UInt8} {item : CJSON} (hitem : item.label.string = some key) (hkey : 0 ∉ key) :
    isNamed string item = true ↔ (cStr string).map tolower = key.map tolower := by
  simp [isNamed, hitem, caseInsensitiveStrcmp_eq_zero (zero_notMem_cStr string) hkey]

/-! ## A key, then its value

The builder adds a null under a key and replaces it later by the value. -/

/-- Where the value goes: to the first child of that name, which is the null only when no other child has it. -/
def slot (children : List CJSON) (key : List UInt8) : ℕ := children.findIdx (isNamed key)

def put (children : List CJSON) (key : List UInt8) (item : CJSON) : List CJSON :=
  (children ++ [named key createNull]).set (slot children key) (named key item)

def slotFrame (label : Fields) (children : List CJSON) (key : List UInt8) : Frame Fields :=
  ⟨label, children.take (slot children key), (children ++ [named key createNull]).drop (slot children key + 1)⟩

theorem slotFrame_plug (label : Fields) (children : List CJSON) (key : List UInt8) (item : CJSON) :
    (slotFrame label children key).plug (named key item) = .node label (put children key item) := by
  have hle : slot children key ≤ children.length := List.findIdx_le_length
  have hlt : slot children key < (children ++ [named key createNull]).length := by
    rw [List.length_append, List.length_singleton]
    omega
  rw [put, List.set_eq_take_append_cons_drop, if_pos hlt, List.take_append_of_le_length hle]
  rfl

theorem length_left_slotFrame (label : Fields) (children : List CJSON) (key : List UInt8) :
    (slotFrame label children key).left.length = slot children key := by
  have hle : slot children key ≤ children.length := List.findIdx_le_length
  simp only [slotFrame, List.length_take]
  omega

variable {key : List UInt8}

theorem replaceItemInObject_slot (hkey : 0 ∉ key) (label : Fields) (children : List CJSON) (item : CJSON) :
    replaceItemInObject (.node label (children ++ [named key createNull])) key item =
      some (slot children key, .node label (put children key item)) := by
  have hself : isNamed key (named key createNull) = true := by
    rw [isNamed_iff rfl hkey, cStr_eq_self_iff.2 hkey]
  have hfind : (children ++ [named key createNull]).findIdx? (isNamed key) = some (slot children key) := by
    rw [List.findIdx?_eq_some_iff_findIdx_eq, List.findIdx_append]
    constructor
    · rw [List.length_append, List.length_singleton]
      exact Nat.lt_succ_of_le List.findIdx_le_length
    · split
      · rfl
      · rename_i hnone
        have hlength : slot children key = children.length :=
          Nat.le_antisymm List.findIdx_le_length (Nat.not_lt.mp hnone)
        rw [List.findIdx_singleton, if_pos hself, Nat.zero_add]
        exact hlength.symm
  simp only [replaceItemInObject, getObjectItem, Rose.children_node, hfind, Option.map_some, Rose.label_node,
    cStr_eq_self_iff.2 hkey, put]

theorem put_of_no_match {children : List CJSON} (h : ∀ c ∈ children, isNamed key c = false) (item : CJSON) :
    put children key item = children ++ [named key item] := by
  have hslot : slot children key = children.length := List.findIdx_eq_length_of_false h
  rw [put, hslot, List.set_append_right children.length _ (Nat.le_refl _), Nat.sub_self, List.set_cons_zero]

theorem put_of_match {children : List CJSON} {c : CJSON} (hc : c ∈ children) (h : isNamed key c = true) (item : CJSON) :
    put children key item = children.set (slot children key) (named key item) ++ [named key createNull] := by
  have hlt : slot children key < children.length := List.findIdx_lt_length_of_exists ⟨c, hc, h⟩
  rw [put, List.set_append_left _ _ hlt]

end AugmentedInsanity.Util.CJson
