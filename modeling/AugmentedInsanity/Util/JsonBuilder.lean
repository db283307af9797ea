/-
`JSONBuilder` of `u_json.hpp`. Its stack, its state and its current node follow the machine of `Lib.Documents` step by
step (`push_builderOf`), so it finishes exactly on the spellings of the documents that machine reads, and what it has
built is known from the document (`built`). That is the document itself unless two keys of an object differ by the
case of letters only, or a string has a NUL (`built_eq_image_iff`).
-/
import AugmentedInsanity.Lib.Documents
import AugmentedInsanity.Util.CJson
import Mathlib.Data.List.Induction

namespace AugmentedInsanity.Util.JsonBuilder

open RoseTrees Documents CJson

/-! ## The builder -/

inductive StackAlphabet
  | base
  | array
  | object
  deriving DecidableEq

inductive State
  | empty
  | buildArray
  | buildObjectKey
  | buildObjectValue
  | finish
  | invalid
  deriving DecidableEq

inductive InputAlphabet
  | startArray
  | endArray
  | startObject
  | endObject
  | pushKey
  | pushValue
  deriving DecidableEq

/-- A `const char *` is the bytes it points to, which count up to the first NUL. -/
inductive JSONValue
  | string (s : List UInt8)
  | chars (s : List UInt8)
  | int (i : Int32)
  | double (d : Float)
  | bool (b : Bool)

/-- `cjson` is a place in the tree that is built, `none` for `nullptr`. -/
structure JSONNode where
  cjson : Option (List ℕ)
  isOwner : Bool
  parent : Option JSONNode

/-- What ends the process: an assertion that fails, with what its message shows, or a null pointer that is followed. -/
inductive Abort
  | failedWith (value : JSONValue)
  | nonStringKey
  | partialPairValueNotNull
  | nonRootWithoutParent
  | invalidTransition (top : Option StackAlphabet) (state : State) (symbol : InputAlphabet) (value : JSONValue)
  | invalidState (state : State) (value : List UInt8)
  | notEnded
  | nullPointer

/-- `stack` begins with its top. All items the nodes point to are in one tree, `root`, which the first node owns. -/
structure JSONBuilder where
  stack : List StackAlphabet
  state : State
  node : Option JSONNode
  root : Option CJSON

def JSONBuilder.create : JSONBuilder := ⟨[.base], .empty, none, none⟩

def makeCJSONValue : JSONValue → CJSON
  | .string s => createString s
  | .chars s => createString s
  | .int i => createNumber i.toFloat
  | .double d => createNumber d
  | .bool b => createBool b

namespace JSONBuilder

/-- `JSON_ASSERTF(node == nullptr)`, and the first node. -/
def setRoot (b : JSONBuilder) (item : CJSON) (value : JSONValue) : Except Abort JSONBuilder :=
  match b.node with
  | some _ => .error (.failedWith value)
  | none => .ok { b with root := some item, node := some ⟨some [], true, none⟩ }

/-- `JSON_ASSERTF(node->cjson != nullptr)`: the current node with its item. -/
def current (b : JSONBuilder) (value : JSONValue) : Except Abort (JSONNode × List ℕ × CJSON) :=
  match b.node with
  | none => .error .nullPointer
  | some node =>
    match node.cjson with
    | none => .error (.failedWith value)
    | some place =>
      match b.root.bind (Rose.get? place) with
      | none => .error .nullPointer
      | some item => .ok (node, place, item)

def modify (b : JSONBuilder) (place : List ℕ) (f : CJSON → CJSON) : JSONBuilder :=
  { b with root := b.root.map (Rose.modify f place) }

/-- `cJSON_AddItemToArray(node->cjson, item)`, with the place of the item. -/
def addItem (b : JSONBuilder) (item : CJSON) (value : JSONValue) : Except Abort (JSONBuilder × JSONNode × List ℕ) := do
  let (node, place, array) ← b.current value
  return (b.modify place fun array => addItemToArray array item, node, place ++ [array.children.length])

/-- `cJSON_ReplaceItemInObject(node->parent->cjson, node->cjson->string, item)`, with the place of the item. The parent
has a child of that name, so the result `none` of the replacement is not met. -/
def replaceItem (b : JSONBuilder) (item : CJSON) (value : JSONValue) :
    Except Abort (JSONBuilder × JSONNode × List ℕ) := do
  let (node, _, pair) ← b.current value
  if !isNull pair then throw .partialPairValueNotNull
  let (some parent, some string) := (node.parent, pair.label.string) | throw .nullPointer
  let (_, place, object) ← { b with node := some parent }.current value
  let (some (i, object')) := replaceItemInObject object string item | throw .nullPointer
  return (b.modify place fun _ => object', node, place ++ [i])

def pop (b : JSONBuilder) (value : JSONValue) : Except Abort JSONBuilder := do
  let stack := b.stack.tail
  let state ← match stack.head? with
    | some .object => pure State.buildObjectKey
    | some .array => pure State.buildArray
    | some .base => pure State.finish
    | none => throw .nullPointer
  let (node, _, _) ← b.current value
  match node.parent with
  | some parent => return { b with stack, state, node := some parent }
  | none => if stack.head? = some .base then return { b with stack, state } else throw .nonRootWithoutParent

def transition (b : JSONBuilder) (symbol : InputAlphabet) (value : JSONValue) : Except Abort JSONBuilder :=
  match b.stack.head?, b.state, symbol with
  | some .base, .empty, .pushValue => do
    let b ← b.setRoot (makeCJSONValue value) value
    return { b with state := .finish }
  | some .base, .empty, .startObject => do
    let b ← b.setRoot createObject value
    return { b with state := .buildObjectKey, stack := .object :: b.stack }
  | some .base, .empty, .startArray => do
    let b ← b.setRoot createArray value
    return { b with state := .buildArray, stack := .array :: b.stack }
  | some .array, .buildArray, .pushValue => do
    let (b, _, _) ← b.addItem (makeCJSONValue value) value
    return { b with state := .buildArray }
  | some .array, .buildArray, .startArray => do
    let (b, node, place) ← b.addItem createArray value
    return { b with node := some ⟨some place, false, some node⟩, state := .buildArray, stack := .array :: b.stack }
  | some .array, .buildArray, .endArray => b.pop value
  | some .array, .buildArray, .startObject => do
    let (b, node, place) ← b.addItem createObject value
    return { b with node := some ⟨some place, false, some node⟩, state := .buildObjectKey, stack := .object :: b.stack }
  | some .object, .buildObjectKey, .pushKey => do
    let (node, place, object) ← b.current value
    let .string key := value | throw .nonStringKey
    let b := b.modify place fun object => addItemToObject object key createNull
    let pair := place ++ [object.children.length]
    return { b with node := some ⟨some pair, false, some node⟩, state := .buildObjectValue }
  | some .object, .buildObjectKey, .endObject => b.pop value
  | some .object, .buildObjectValue, .pushValue => do
    let (b, node, _) ← b.replaceItem (makeCJSONValue value) value
    return { b with node := node.parent, state := .buildObjectKey }
  | some .object, .buildObjectValue, .startObject => do
    let (b, node, place) ← b.replaceItem createObject value
    return { b with node := some { node with cjson := some place }, state := .buildObjectKey, stack := .object :: b.stack }
  | some .object, .buildObjectValue, .startArray => do
    let (b, node, place) ← b.replaceItem createArray value
    return { b with node := some { node with cjson := some place }, state := .buildArray, stack := .array :: b.stack }
  | top, state, symbol => throw (.invalidTransition top state symbol value)

/-- The part of `operator<<` for strings. -/
def pushString (b : JSONBuilder) (as_string : List UInt8) : Except Abort JSONBuilder :=
  if as_string = [0x5B] then b.transition .startArray (.string as_string)
  else if as_string = [0x5D] then b.transition .endArray (.string as_string)
  else if as_string = [0x7B] then b.transition .startObject (.string as_string)
  else if as_string = [0x7D] then b.transition .endObject (.string as_string)
  else if b.state = .buildObjectKey then b.transition .pushKey (.string as_string)
  else if b.state = .buildObjectValue then b.transition .pushValue (.string as_string)
  else .error (.invalidState b.state as_string)

/-- `operator<<` -/
def push (b : JSONBuilder) (value : JSONValue) : Except Abort JSONBuilder :=
  match value with
  | .string s => b.pushString s
  | .chars s => b.pushString (cStr s)
  | value => b.transition .pushValue value

def getBuiltNode (b : JSONBuilder) : Except Abort (Option JSONNode) :=
  if b.state = .finish then .ok b.node else .error .notEnded

def item? (b : JSONBuilder) (node : JSONNode) : Option CJSON := node.cjson.bind fun place => b.root.bind (Rose.get? place)

def pushAll (b : JSONBuilder) (values : List JSONValue) : Except Abort JSONBuilder := values.foldlM push b

end JSONBuilder

/-! ## Documents

The values without the type they were given in; a text is a key or a string. -/

inductive Scalar
  | text (s : List UInt8)
  | number (d : Float)
  | bool (b : Bool)

abbrev Json := Doc (List UInt8) Scalar

def denote : JSONValue → Scalar
  | .string s => .text s
  | .chars s => .text (cStr s)
  | .int i => .number i.toFloat
  | .double d => .number d
  | .bool b => .bool b

def Scalar.key? : Scalar → Option (List UInt8)
  | .text s => some s
  | _ => none

/-- `operator<<` takes a string only as a key and as the value of a member. -/
def Scalar.loose : Scalar → Bool
  | .text _ => false
  | _ => true

theorem Scalar.key?_eq_some (a : Scalar) (k : List UInt8) : a.key? = some k ↔ a = .text k := by
  cases a <;> simp [key?]

def grammar : Grammar (List UInt8) Scalar := ⟨.text, Scalar.key?, Scalar.key?_eq_some, Scalar.loose⟩

def classify : Scalar → Token Scalar
  | .text [0x5B] => .openArray
  | .text [0x5D] => .closeArray
  | .text [0x7B] => .openObject
  | .text [0x7D] => .closeObject
  | a => .atom a

def spell : Token Scalar → Scalar
  | .openArray => .text [0x5B]
  | .closeArray => .text [0x5D]
  | .openObject => .text [0x7B]
  | .closeObject => .text [0x7D]
  | .atom a => a

theorem spell_classify (a : Scalar) : spell (classify a) = a := by
  unfold classify
  split <;> rfl

/-! ## What is built -/

def scalarItem : Scalar → CJSON
  | .text s => createString s
  | .number d => createNumber d
  | .bool b => createBool b

theorem makeCJSONValue_eq (value : JSONValue) : makeCJSONValue value = scalarItem (denote value) := by
  cases value with
  | chars s => simp [makeCJSONValue, scalarItem, denote, createString, cStr_eq_self_iff.2 (zero_notMem_cStr s)]
  | _ => rfl

def putAll (members : List (List UInt8 × CJSON)) : List CJSON :=
  members.foldl (fun children m => put children (cStr m.1) m.2) []

def built : Json → CJSON :=
  Doc.fold scalarItem (fun items => .node ⟨.array, none⟩ items) fun members => .node ⟨.object, none⟩ (putAll members)

def builtMembers (members : List (List UInt8 × Json)) : List CJSON := putAll (members.map (Prod.map id built))

theorem built_array (items : List Json) : built (.array items) = .node ⟨.array, none⟩ (items.map built) := by
  rw [built, Doc.fold_array]

theorem built_object (members : List (List UInt8 × Json)) :
    built (.object members) = .node ⟨.object, none⟩ (builtMembers members) := by
  rw [built, Doc.fold_object]
  rfl

theorem builtMembers_concat (members : List (List UInt8 × Json)) (key : List UInt8) (d : Json) :
    builtMembers (members ++ [(key, d)]) = put (builtMembers members) (cStr key) (built d) := by
  simp [builtMembers, putAll]

/-! ## The builder of a partly read document -/

def keyOf : List (Crumb (List UInt8) Scalar) → Option (List UInt8)
  | .member _ key :: _ => some (cStr key)
  | _ => none

def framesOf : List (Crumb (List UInt8) Scalar) → List (Frame Fields)
  | [] => []
  | .item items :: up => ⟨⟨.array, keyOf up⟩, items.map built, []⟩ :: framesOf up
  | .member members key :: up => slotFrame ⟨.object, keyOf up⟩ (builtMembers members) (cStr key) :: framesOf up

def stackOf : List (Crumb (List UInt8) Scalar) → List StackAlphabet
  | [] => [.base]
  | .item _ :: up => .array :: stackOf up
  | .member _ _ :: up => .object :: stackOf up

def stateOf : List (Crumb (List UInt8) Scalar) → State
  | [] => .finish
  | .item _ :: _ => .buildArray
  | .member _ _ :: _ => .buildObjectKey

def nodeAt : List (Frame Fields) → JSONNode
  | [] => ⟨some [], true, none⟩
  | frame :: frames => ⟨some (address (frame :: frames)), false, some (nodeAt frames)⟩

def builderAt (stack : List StackAlphabet) (state : State) (frames : List (Frame Fields)) (item : CJSON) : JSONBuilder :=
  ⟨stack, state, some (nodeAt frames), some (plug frames item)⟩

def builderOf : Reading (List UInt8) Scalar → JSONBuilder
  | .start => .create
  | .array items up =>
    builderAt (.array :: stackOf up) .buildArray (framesOf up) (.node ⟨.array, keyOf up⟩ (items.map built))
  | .object members up =>
    builderAt (.object :: stackOf up) .buildObjectKey (framesOf up) (.node ⟨.object, keyOf up⟩ (builtMembers members))
  | .value members key up =>
    builderAt (.object :: stackOf up) .buildObjectValue
      (⟨⟨.object, keyOf up⟩, builtMembers members, []⟩ :: framesOf up) (named (cStr key) createNull)
  | .done d => builderAt [.base] .finish [] (built d)

theorem cjson_nodeAt (frames : List (Frame Fields)) : (nodeAt frames).cjson = some (address frames) := by
  cases frames <;> rfl

def placed (up : List (Crumb (List UInt8) Scalar)) (item : CJSON) : CJSON :=
  .node ⟨item.label.value, keyOf up⟩ item.children

theorem placed_nil (d : Json) : placed [] (built d) = built d := by
  cases d with
  | atom a => cases a <;> rfl
  | array items => rw [built_array]; rfl
  | object members => rw [built_object]; rfl

theorem builderOf_add (d : Json) (up : List (Crumb (List UInt8) Scalar)) :
    builderOf (.add d up) =
      ⟨stackOf up, stateOf up, some (nodeAt (framesOf up.tail)), some (plug (framesOf up) (placed up (built d)))⟩ := by
  cases up with
  | nil => rw [placed_nil]; rfl
  | cons c up =>
    cases c with
    | item items =>
      have hitem : placed (.item items :: up) (built d) = built d := placed_nil d
      rw [hitem]
      simp [Reading.add, builderOf, builderAt, stackOf, stateOf, framesOf, plug, Frame.plug]
    | member members key =>
      have hplug := slotFrame_plug ⟨.object, keyOf up⟩ (builtMembers members) (cStr key) (built d)
      simp only [Reading.add, builderOf, builderAt, stackOf, stateOf, framesOf, plug, builtMembers_concat, ← hplug,
        List.tail_cons]
      rfl

/-! ## One value -/

section Steps

variable {stack : List StackAlphabet} {state : State} {frames : List (Frame Fields)} {value : JSONValue}

theorem current_builderAt (item : CJSON) :
    (builderAt stack state frames item).current value = .ok (nodeAt frames, address frames, item) := by
  simp [JSONBuilder.current, builderAt, cjson_nodeAt, get?_plug]

theorem modify_builderAt (f : CJSON → CJSON) (item : CJSON) :
    (builderAt stack state frames item).modify (address frames) f = builderAt stack state frames (f item) := by
  simp [JSONBuilder.modify, builderAt, modify_plug]

theorem addItem_builderAt (label : Fields) (children : List CJSON) (item : CJSON) :
    (builderAt stack state frames (.node label children)).addItem item value =
      .ok (builderAt stack state frames (.node label (children ++ [item])), nodeAt frames,
        address frames ++ [children.length]) := by
  simp only [JSONBuilder.addItem, current_builderAt, bind, Except.bind, modify_builderAt]
  rfl

variable {b : JSONBuilder}

theorem replaceItem_eq {node parent node' : JSONNode} {here place : List ℕ} {string : List UInt8}
    {pair object object' item : CJSON} {i : ℕ} (hcurrent : b.current value = .ok (node, here, pair))
    (hnull : isNull pair = true) (hparent : node.parent = some parent) (hstring : pair.label.string = some string)
    (hobject : ({ b with node := some parent } : JSONBuilder).current value = .ok (node', place, object))
    (hreplace : replaceItemInObject object string item = some (i, object')) :
    b.replaceItem item value = .ok (b.modify place fun _ => object', node, place ++ [i]) := by
  simp only [JSONBuilder.replaceItem, hcurrent, bind, Except.bind, hnull, hparent, hstring, hobject, hreplace]
  rfl

theorem replaceItem_builderAt {key : List UInt8} (hkey : 0 ∉ key) (label : Fields) (children : List CJSON)
    (item : CJSON) :
    (builderAt stack state (⟨label, children, []⟩ :: frames) (named key createNull)).replaceItem item value =
      .ok (⟨stack, state, some (nodeAt (⟨label, children, []⟩ :: frames)),
          some (plug frames (.node label (put children key item)))⟩,
        nodeAt (⟨label, children, []⟩ :: frames), address frames ++ [slot children key]) := by
  have hobject : (builderAt stack state frames (.node label (children ++ [named key createNull]))).current value = _ :=
    current_builderAt _
  have hreplace := replaceItemInObject_slot hkey label children item
  have h := replaceItem_eq (b := builderAt stack state (⟨label, children, []⟩ :: frames) (named key createNull))
    (current_builderAt _) rfl rfl rfl hobject hreplace
  rw [h]
  simp only [JSONBuilder.modify, builderAt, plug, Option.map_some, modify_plug]

theorem pop_builderAt (top : StackAlphabet) (up : List (Crumb (List UInt8) Scalar)) (item : CJSON) :
    (builderAt (top :: stackOf up) state (framesOf up) item).pop value =
      .ok ⟨stackOf up, stateOf up, some (nodeAt (framesOf up.tail)), some (plug (framesOf up) item)⟩ := by
  rw [JSONBuilder.pop, current_builderAt]
  cases up with
  | nil => rfl
  | cons c up => cases c <;> rfl

theorem builderAt_slot (label : Fields) (children : List CJSON) (key : List UInt8) (item : CJSON) :
    builderAt stack state (slotFrame label children key :: frames) (named key item) =
      ⟨stack, state, some ⟨some (address frames ++ [slot children key]), false, some (nodeAt frames)⟩,
        some (plug frames (.node label (put children key item)))⟩ := by
  simp only [builderAt, plug, slotFrame_plug, nodeAt, address, length_left_slotFrame]

variable {r : Reading (List UInt8) Scalar} {up : List (Crumb (List UInt8) Scalar)} {s : List UInt8}

theorem transition_startArray (hplace : r.place = some up) :
    (builderOf r).transition .startArray value = .ok (builderOf (.array [] up)) := by
  cases r with
  | start =>
    cases hplace
    rfl
  | array items up =>
    cases hplace
    show ((builderAt _ _ _ _).addItem createArray value >>= _) = _
    rw [addItem_builderAt]
    rfl
  | object members up => cases hplace
  | value members key up =>
    cases hplace
    show ((builderAt _ _ _ _).replaceItem createArray value >>= _) = _
    rw [replaceItem_builderAt (zero_notMem_cStr key)]
    exact congrArg Except.ok (builderAt_slot _ _ _ createArray).symm
  | done d => cases hplace

theorem transition_startObject (hplace : r.place = some up) :
    (builderOf r).transition .startObject value = .ok (builderOf (.object [] up)) := by
  cases r with
  | start =>
    cases hplace
    rfl
  | array items up =>
    cases hplace
    show ((builderAt _ _ _ _).addItem createObject value >>= _) = _
    rw [addItem_builderAt]
    rfl
  | object members up => cases hplace
  | value members key up =>
    cases hplace
    show ((builderAt _ _ _ _).replaceItem createObject value >>= _) = _
    rw [replaceItem_builderAt (zero_notMem_cStr key)]
    exact congrArg Except.ok (builderAt_slot _ _ _ createObject).symm
  | done d => cases hplace

theorem transition_pushValue (hplace : r.place = some up) :
    (builderOf r).transition .pushValue value = .ok (builderOf (.add (.atom (denote value)) up)) := by
  have hmake : makeCJSONValue value = built (.atom (denote value)) := makeCJSONValue_eq value
  cases r with
  | start =>
    cases hplace
    show Except.ok _ = _
    rw [hmake]
    rfl
  | array items up =>
    cases hplace
    show ((builderAt _ _ _ _).addItem (makeCJSONValue value) value >>= _) = _
    rw [addItem_builderAt, hmake]
    simp only [Reading.add, builderOf, List.map_append, List.map_singleton]
    rfl
  | object members up => cases hplace
  | value members key up =>
    cases hplace
    show ((builderAt _ _ _ _).replaceItem (makeCJSONValue value) value >>= _) = _
    rw [replaceItem_builderAt (zero_notMem_cStr key), hmake, Reading.add, builderOf, builtMembers_concat]
    rfl
  | done d => cases hplace

theorem transition_endArray (items : List Json) (up : List (Crumb (List UInt8) Scalar)) :
    (builderOf (.array items up)).transition .endArray value = .ok (builderOf (.add (.array items) up)) := by
  rw [builderOf_add, built_array]
  exact pop_builderAt .array up _

theorem transition_endObject (members : List (List UInt8 × Json)) (up : List (Crumb (List UInt8) Scalar)) :
    (builderOf (.object members up)).transition .endObject value = .ok (builderOf (.add (.object members) up)) := by
  rw [builderOf_add, built_object]
  exact pop_builderAt .object up _

theorem transition_pushKey (members : List (List UInt8 × Json)) (up : List (Crumb (List UInt8) Scalar))
    (key : List UInt8) :
    (builderOf (.object members up)).transition .pushKey (.string key) = .ok (builderOf (.value members key up)) := by
  show ((builderAt _ _ _ _).current _ >>= _) = _
  rw [current_builderAt]
  simp only [bind, Except.bind, builderOf, modify_builderAt]
  rfl

theorem push_text (h : denote value = .text s) : b.push value = b.pushString s := by
  cases value <;> cases h <;> rfl

theorem push_of_ne_text (h : ∀ s, denote value ≠ .text s) : b.push value = b.transition .pushValue value := by
  cases value with
  | string s => exact (h s rfl).elim
  | chars s => exact (h (cStr s) rfl).elim
  | _ => rfl

def symbols : List (List UInt8) := [[0x5B], [0x5D], [0x7B], [0x7D]]

theorem classify_text_eq_atom_iff {a : Scalar} : classify (.text s) = .atom a ↔ s ∉ symbols ∧ a = .text s := by
  constructor
  · intro h
    refine ⟨fun hs => ?_, by rw [← spell_classify (.text s), h]; rfl⟩
    simp only [symbols, List.mem_cons, List.not_mem_nil, or_false] at hs
    rcases hs with rfl | rfl | rfl | rfl <;> cases h
  · rintro ⟨hs, rfl⟩
    unfold classify
    split
    all_goals first
      | rfl
      | simp_all [symbols]

theorem pushString_of_notMem (h : s ∉ symbols) :
    b.pushString s =
      if b.state = .buildObjectKey then b.transition .pushKey (.string s)
      else if b.state = .buildObjectValue then b.transition .pushValue (.string s)
      else .error (.invalidState b.state s) := by
  simp only [symbols, List.mem_cons, List.not_mem_nil, or_false, not_or] at h
  rw [JSONBuilder.pushString, if_neg h.1, if_neg h.2.1, if_neg h.2.2.1, if_neg h.2.2.2]

theorem push_builderOf {r' : Reading (List UInt8) Scalar}
    (h : Reading.step grammar r (classify (denote value)) = some r') :
    (builderOf r).push value = .ok (builderOf r') := by
  have hspell := spell_classify (denote value)
  obtain ⟨up, hplace, ⟨ht, rfl⟩ | ⟨ht, rfl⟩⟩ | ⟨items, up, ht, rfl, rfl⟩ | ⟨members, up, ht, rfl, rfl⟩ |
    ⟨members, up, key, ht, rfl, rfl⟩ | ⟨a, up, ht, hplace, hatom, rfl⟩ := Reading.step_cases grammar h
  · rw [ht] at hspell
    rw [push_text hspell.symm]
    exact transition_startArray hplace
  · rw [ht] at hspell
    rw [push_text hspell.symm]
    exact transition_startObject hplace
  · rw [ht] at hspell
    rw [push_text hspell.symm]
    exact transition_endArray items up
  · rw [ht] at hspell
    rw [push_text hspell.symm]
    exact transition_endObject members up
  · rw [ht] at hspell
    rw [← hspell] at ht
    have hstate : (builderOf (.object members up)).state = .buildObjectKey := rfl
    rw [push_text hspell.symm, pushString_of_notMem (classify_text_eq_atom_iff.1 ht).1, if_pos hstate]
    exact transition_pushKey members up key
  · rw [ht] at hspell
    rw [← hspell] at ht
    cases a with
    | text s =>
      -- A text is no value of its own, so a member is waiting for it.
      have hmember : inMember up = true := hatom.resolve_right (by simp [grammar, Scalar.loose])
      rw [push_text hspell.symm, pushString_of_notMem (classify_text_eq_atom_iff.1 ht).1]
      cases r with
      | value members key up' =>
        have hstate : (builderOf (.value members key up')).state = .buildObjectValue := rfl
        rw [hstate, if_neg (by decide), if_pos rfl]
        exact transition_pushValue hplace
      | _ => cases hplace <;> cases hmember
    | _ =>
      rw [push_of_ne_text (fun s hs => by rw [← hspell] at hs; cases hs), transition_pushValue hplace, ← hspell]
      rfl

theorem push_error (h : Reading.step grammar r (classify (denote value)) = none) :
    ∃ e, (builderOf r).push value = .error e := by
  have hspell := spell_classify (denote value)
  generalize ht : classify (denote value) = t at h hspell
  cases t with
  | openArray =>
    rw [push_text hspell.symm]
    cases r <;> first | exact ⟨_, rfl⟩ | cases h
  | closeArray =>
    rw [push_text hspell.symm]
    cases r <;> first | exact ⟨_, rfl⟩ | cases h
  | openObject =>
    rw [push_text hspell.symm]
    cases r <;> first | exact ⟨_, rfl⟩ | cases h
  | closeObject =>
    rw [push_text hspell.symm]
    cases r <;> first | exact ⟨_, rfl⟩ | cases h
  | atom a =>
    rw [← hspell] at ht
    cases a with
    | text s =>
      rw [push_text hspell.symm, pushString_of_notMem (classify_text_eq_atom_iff.1 ht).1]
      cases r <;> first | exact ⟨_, rfl⟩ | cases h
    | _ =>
      rw [push_of_ne_text fun s hs => by rw [← hspell] at hs; cases hs]
      cases r <;> first | exact ⟨_, rfl⟩ | cases h

theorem pushAll_builderOf (r : Reading (List UInt8) Scalar) (values : List JSONValue) (b : JSONBuilder) :
    (builderOf r).pushAll values = .ok b ↔
      ∃ r', r.read grammar (values.map fun v => classify (denote v)) = some r' ∧ b = builderOf r' := by
  induction values generalizing r with
  | nil =>
    constructor
    · intro h
      cases h
      exact ⟨r, rfl, rfl⟩
    · rintro ⟨r', h, rfl⟩
      cases h
      rfl
  | cons v values ih =>
    rw [JSONBuilder.pushAll, List.foldlM_cons, List.map_cons]
    cases hstep : r.step grammar (classify (denote v)) with
    | none =>
      obtain ⟨e, he⟩ := push_error hstep
      simp [he, Reading.read, hstep, bind, Except.bind]
    | some r₁ =>
      rw [push_builderOf hstep, Reading.read_cons grammar hstep]
      exact ih r₁

end Steps

/-! ## What is built and what was meant -/

def plainItem : Scalar → CJSON
  | .text s => createItem (.string s)
  | .number d => createNumber d
  | .bool b => createBool b

/-- The item that is equal to a document: every member under its own key and in its own place. -/
def image : Json → CJSON :=
  Doc.fold plainItem (fun items => .node ⟨.array, none⟩ items)
    fun members => .node ⟨.object, none⟩ (members.map fun m => named m.1 m.2)

theorem image_array (items : List Json) : image (.array items) = .node ⟨.array, none⟩ (items.map image) := by
  rw [image, Doc.fold_array]

theorem image_object (members : List (List UInt8 × Json)) :
    image (.object members) = .node ⟨.object, none⟩ (members.map fun m => named m.1 (image m.2)) := by
  rw [image, Doc.fold_object, List.map_map]
  rfl

theorem image_value_ne_null (t : Json) : (image t).label.value ≠ .null := by
  cases t with
  | atom a => cases a <;> simp [image, Doc.fold, plainItem, createNumber, createBool, createItem]
  | array items => simp [image_array]
  | object members => simp [image_object]

theorem string_image (t : Json) : (image t).label.string = none := by
  cases t with
  | atom a => cases a <;> rfl
  | array items => rw [image_array]; rfl
  | object members => rw [image_object]; rfl

theorem string_built (t : Json) : (built t).label.string = none := by
  cases t with
  | atom a => cases a <;> rfl
  | array items => rw [built_array]; rfl
  | object members => rw [built_object]; rfl

theorem named_inj {key key' : List UInt8} {item item' : CJSON} (hstring : item.label.string = item'.label.string) :
    named key item = named key' item' ↔ key = key' ∧ item = item' := by
  obtain ⟨⟨value, string⟩, children⟩ := item
  obtain ⟨⟨value', string'⟩, children'⟩ := item'
  simp only [Rose.label_node] at hstring
  simp [named, hstring]
  grind

def NulFree : Scalar → Prop
  | .text s => 0 ∉ s
  | _ => True

/-- The keys of an object have no NUL, and no two of them differ by the case of letters only. -/
def KeptApart (keys : List (List UInt8)) : Prop :=
  (∀ k ∈ keys, 0 ∉ k) ∧ keys.Pairwise fun k k' => k.map tolower ≠ k'.map tolower

theorem scalarItem_eq_plainItem_iff (a : Scalar) : scalarItem a = plainItem a ↔ NulFree a := by
  cases a with
  | text s => simp [scalarItem, plainItem, NulFree, createString, createItem, cStr_eq_self_iff]
  | _ => simp [scalarItem, plainItem, NulFree]

theorem string_of_mem_builtMembers {members : List (List UInt8 × Json)} {c : CJSON} (h : c ∈ builtMembers members) :
    ∃ m ∈ members, c.label.string = some (cStr m.1) := by
  induction members using List.reverseRecOn with
  | nil => cases h
  | append_singleton members m ih =>
    obtain ⟨key, d⟩ := m
    rw [builtMembers_concat, put] at h
    rcases List.mem_or_eq_of_mem_set h with h | rfl
    · rcases List.mem_append.mp h with h | h
      · obtain ⟨m, hm, hstring⟩ := ih h
        exact ⟨m, List.mem_append_left _ hm, hstring⟩
      · rw [List.mem_singleton.mp h]
        exact ⟨(key, d), by simp, rfl⟩
    · exact ⟨(key, d), by simp, rfl⟩

theorem builtMembers_eq_iff (members : List (List UInt8 × Json)) :
    builtMembers members = members.map (fun m => named m.1 (image m.2)) ↔
      KeptApart (members.map Prod.fst) ∧ ∀ m ∈ members, built m.2 = image m.2 := by
  induction members using List.reverseRecOn with
  | nil => simp [builtMembers, putAll, KeptApart]
  | append_singleton members m ih =>
    obtain ⟨key, d⟩ := m
    rw [builtMembers_concat, List.map_append, List.map_singleton, List.map_append, List.map_singleton]
    by_cases hmatch : ∃ c ∈ builtMembers members, isNamed (cStr key) c = true
    · -- An earlier key is taken for this one, and the null of this one stays.
      obtain ⟨c, hc, hnamed⟩ := hmatch
      constructor
      · intro h
        rw [put_of_match hc hnamed] at h
        have hlast := (List.append_inj' h rfl).2
        simp only [List.cons.injEq, and_true] at hlast
        have hvalue : (named key (image d)).label.value = .null := by rw [← hlast]; rfl
        exact (image_value_ne_null d hvalue).elim
      · rintro ⟨⟨hnul, hapart⟩, -⟩
        obtain ⟨m, hm, hstring⟩ := string_of_mem_builtMembers hc
        have hmem : m.1 ∈ members.map Prod.fst := List.mem_map_of_mem hm
        have hkey : cStr key = key := cStr_eq_self_iff.2 (hnul key (by simp))
        have hkey' : cStr m.1 = m.1 := cStr_eq_self_iff.2 (hnul m.1 (List.mem_append_left _ hmem))
        have hne := (List.pairwise_append.mp hapart).2.2 m.1 hmem key (by simp)
        rw [isNamed_iff hstring (zero_notMem_cStr m.1), hkey, hkey', hkey] at hnamed
        exact (hne hnamed.symm).elim
    · have hno : ∀ c ∈ builtMembers members, isNamed (cStr key) c = false := by
        intro c hc
        simpa using fun h => hmatch ⟨c, hc, h⟩
      have hstring : (built d).label.string = (image d).label.string := (string_built d).trans (string_image d).symm
      rw [put_of_no_match hno, List.append_singleton_inj, named_inj hstring]
      constructor
      · rintro ⟨hinit, hkey, hd⟩
        obtain ⟨⟨hnul, hapart⟩, hsame⟩ := ih.1 hinit
        have hne : ∀ k ∈ members.map Prod.fst, ∀ k' ∈ [key], k.map tolower ≠ k'.map tolower := by
          intro k hk k' hk' heq
          obtain ⟨m, hm, rfl⟩ := List.mem_map.mp hk
          have hmem : named m.1 (image m.2) ∈ builtMembers members := by
            rw [hinit]
            exact List.mem_map.mpr ⟨m, hm, rfl⟩
          rw [List.mem_singleton.mp hk'] at heq
          have hnamed : isNamed (cStr key) (named m.1 (image m.2)) = true := by
            rw [isNamed_iff rfl (hnul m.1 hk), hkey, hkey, heq]
          rw [hno _ hmem] at hnamed
          cases hnamed
        refine ⟨⟨?_, List.pairwise_append.mpr ⟨hapart, List.pairwise_singleton _ _, hne⟩⟩, ?_⟩
        · intro k hk
          rcases List.mem_append.mp hk with hk | hk
          · exact hnul k hk
          · rw [List.mem_singleton.mp hk]
            exact cStr_eq_self_iff.1 hkey
        · intro m hm
          rcases List.mem_append.mp hm with hm | hm
          · exact hsame m hm
          · rw [List.mem_singleton.mp hm]
            exact hd
      · rintro ⟨⟨hnul, hapart⟩, hsame⟩
        have hinit := ih.2 ⟨⟨fun k hk => hnul k (List.mem_append_left _ hk), (List.pairwise_append.mp hapart).1⟩,
          fun m hm => hsame m (List.mem_append_left _ hm)⟩
        exact ⟨hinit, cStr_eq_self_iff.2 (hnul key (by simp)), hsame (key, d) (by simp)⟩

/-- Every string is without a NUL, and the keys of every object are kept apart. -/
def Kept (t : Json) : Prop := t.Every NulFree KeptApart

theorem built_eq_image_iff (t : Json) : built t = image t ↔ Kept t := by
  induction t using Doc.inductionOn with
  | atom a => rw [Kept, Doc.every_atom, ← scalarItem_eq_plainItem_iff]; rfl
  | array items ih =>
    rw [built_array, image_array, Kept, Doc.every_array, Rose.node.injEq, List.map_inj_left]
    simp only [true_and]
    exact forall₂_congr ih
  | object members ih =>
    rw [built_object, image_object, Kept, Doc.every_object, Rose.node.injEq, builtMembers_eq_iff]
    simp only [true_and]
    exact and_congr_right fun _ => forall₂_congr ih

/-- `{"a": true, "A": false}` comes out as `{"A": false, "A": null}`. -/
example : built (.object [([0x61], .atom (.bool true)), ([0x41], .atom (.bool false))]) =
    .node ⟨.object, none⟩ [named [0x41] (createBool false), named [0x41] createNull] := rfl

/-! ## The builder and the trees -/

def linearise (t : Json) : List Scalar := (t.tokens grammar).map spell

def Linearises (values : List JSONValue) (t : Json) : Prop := values.map denote = linearise t

def NotSymbol : Scalar → Prop
  | .text s => s ∉ symbols
  | _ => True

def SymbolFree (t : Json) : Prop := t.Every NotSymbol fun keys => ∀ k ∈ keys, k ∉ symbols

def UniqueKeys (t : Json) : Prop := t.Every (fun _ => True) List.Nodup

/-- Pushing the values one after the other, then `getBuiltNode`, gives a node equal to the tree. -/
def Builds (values : List JSONValue) (t : Json) : Prop :=
  ∃ b node, JSONBuilder.create.pushAll values = .ok b ∧ b.getBuiltNode = .ok (some node) ∧
    b.item? node = some (image t)

def Finishes (values : List JSONValue) : Prop := ∃ b, JSONBuilder.create.pushAll values = .ok b ∧ b.state = .finish

/-- What the values of a tree build is that tree, and values of no tree do not reach `Finish`. -/
def Correct (values : List JSONValue) : Prop :=
  (∀ t, SymbolFree t → UniqueKeys t → Linearises values t → Builds values t) ∧
    ((¬ ∃ t, SymbolFree t ∧ UniqueKeys t ∧ Linearises values t) → ¬ Finishes values)

theorem classify_eq_atom_iff (a : Scalar) : classify a = .atom a ↔ NotSymbol a := by
  cases a with
  | text s => simp [classify_text_eq_atom_iff, NotSymbol]
  | _ => simp [classify, NotSymbol]

theorem symbolFree_iff (t : Json) : SymbolFree t ↔ ∀ token ∈ t.tokens grammar, classify (spell token) = token := by
  induction t using Doc.inductionOn with
  | atom a => simp [SymbolFree, spell, classify_eq_atom_iff]
  | array items ih =>
    rw [SymbolFree, Doc.every_array, Doc.tokens_array]
    constructor
    · intro h token htoken
      simp only [List.mem_cons, List.mem_append, List.mem_flatMap, List.not_mem_nil, or_false] at htoken
      obtain rfl | ⟨d, hd, htoken⟩ | rfl := htoken
      · rfl
      · exact (ih d hd).1 (h d hd) token htoken
      · rfl
    · intro h d hd
      refine (ih d hd).2 fun token htoken => h token ?_
      exact List.mem_cons_of_mem _ (List.mem_append_left _ (List.mem_flatMap.mpr ⟨d, hd, htoken⟩))
  | object members ih =>
    rw [SymbolFree, Doc.every_object, Doc.tokens_object]
    constructor
    · rintro ⟨hkeys, h⟩ token htoken
      simp only [List.mem_cons, List.mem_append, List.mem_flatMap, List.not_mem_nil, or_false, Doc.memberTokens]
        at htoken
      obtain rfl | ⟨m, hm, rfl | htoken⟩ | rfl := htoken
      · rfl
      · exact (classify_eq_atom_iff _).2 (hkeys m.1 (List.mem_map_of_mem hm))
      · exact (ih m hm).1 (h m hm) token htoken
      · rfl
    · intro h
      have hmember : ∀ m ∈ members, ∀ token ∈ Doc.memberTokens grammar m, classify (spell token) = token := by
        intro m hm token htoken
        apply h
        exact List.mem_cons_of_mem _ (List.mem_append_left _ (List.mem_flatMap.mpr ⟨m, hm, htoken⟩))
      constructor
      · intro k hk
        obtain ⟨m, hm, rfl⟩ := List.mem_map.mp hk
        exact (classify_eq_atom_iff (.text m.1)).1 (hmember m hm (.atom (.text m.1)) List.mem_cons_self)
      · exact fun m hm => (ih m hm).2 fun token htoken => hmember m hm token (List.mem_cons_of_mem _ htoken)

theorem tokens_eq_iff (values : List JSONValue) (t : Json) :
    values.map (fun v => classify (denote v)) = t.tokens grammar ↔ SymbolFree t ∧ Linearises values t := by
  constructor
  · intro h
    constructor
    · rw [symbolFree_iff, ← h]
      intro token htoken
      obtain ⟨v, -, rfl⟩ := List.mem_map.mp htoken
      rw [spell_classify]
    · rw [Linearises, linearise, ← h, List.map_map]
      exact List.map_congr_left fun v _ => (spell_classify (denote v)).symm
  · rintro ⟨hfree, hlin⟩
    have hmap : (t.tokens grammar).map (fun token => classify (spell token)) = t.tokens grammar :=
      (List.map_congr_left ((symbolFree_iff t).1 hfree)).trans (List.map_id _)
    have hvalues := congrArg (List.map classify) hlin
    rw [linearise, List.map_map, List.map_map] at hvalues
    exact hvalues.trans hmap

theorem pushAll_finish_iff (values : List JSONValue) (b : JSONBuilder) :
    JSONBuilder.create.pushAll values = .ok b ∧ b.state = .finish ↔
      ∃ t, t.Fits grammar false ∧ SymbolFree t ∧ Linearises values t ∧ b = builderOf (.done t) := by
  have hread := pushAll_builderOf .start values b
  constructor
  · rintro ⟨hpush, hstate⟩
    obtain ⟨r, hr, rfl⟩ := hread.1 hpush
    cases r with
    | done t =>
      obtain ⟨hfits, htokens⟩ := (Reading.read_done_iff grammar).1 hr
      obtain ⟨hfree, hlin⟩ := (tokens_eq_iff values t).1 htokens
      exact ⟨t, hfits, hfree, hlin, rfl⟩
    | _ => cases hstate
  · rintro ⟨t, hfits, hfree, hlin, rfl⟩
    have htokens := (tokens_eq_iff values t).2 ⟨hfree, hlin⟩
    exact ⟨hread.2 ⟨.done t, (Reading.read_done_iff grammar).2 ⟨hfits, htokens⟩, rfl⟩, rfl⟩

variable {values : List JSONValue}

theorem linearises_unique {t t' : Json} (hfree : SymbolFree t) (h : Linearises values t) (hfree' : SymbolFree t')
    (h' : Linearises values t') : t = t' := by
  have htokens := (tokens_eq_iff values t).2 ⟨hfree, h⟩
  have htokens' := (tokens_eq_iff values t').2 ⟨hfree', h'⟩
  exact Doc.tokens_injective grammar (htokens.symm.trans htokens')

theorem builds_iff {t : Json} (hfree : SymbolFree t) (h : Linearises values t) :
    Builds values t ↔ t.Fits grammar false ∧ Kept t := by
  rw [← built_eq_image_iff]
  constructor
  · rintro ⟨b, node, hpush, hnode, hitem⟩
    have hstate : b.state = .finish := by
      by_contra hne
      rw [JSONBuilder.getBuiltNode, if_neg hne] at hnode
      cases hnode
    obtain ⟨t', hfits, hfree', h', rfl⟩ := (pushAll_finish_iff values b).1 ⟨hpush, hstate⟩
    obtain rfl := linearises_unique hfree h hfree' h'
    cases hnode
    exact ⟨hfits, Option.some.inj hitem⟩
  · rintro ⟨hfits, hbuilt⟩
    have hpush := (pushAll_finish_iff values (builderOf (.done t))).2 ⟨t, hfits, hfree, h, rfl⟩
    refine ⟨builderOf (.done t), nodeAt [], hpush.1, rfl, ?_⟩
    rw [← hbuilt]
    rfl

/-- The builder treats a tree as it should when the tree has strings nowhere but in objects and keys that are kept
apart; and a tree with a repeated key when there is a string elsewhere. -/
theorem builder_correct_iff (values : List JSONValue) :
    Correct values ↔ ∀ t, SymbolFree t → Linearises values t →
      (UniqueKeys t → t.Fits grammar false ∧ Kept t) ∧ (t.Fits grammar false → UniqueKeys t) := by
  constructor
  · rintro ⟨hbuilds, hfinish⟩ t hfree hlin
    refine ⟨fun hunique => (builds_iff hfree hlin).1 (hbuilds t hfree hunique hlin), fun hfits => ?_⟩
    have hpush := (pushAll_finish_iff values (builderOf (.done t))).2 ⟨t, hfits, hfree, hlin, rfl⟩
    by_contra hrepeated
    refine hfinish ?_ ⟨_, hpush⟩
    rintro ⟨t', hfree', hunique', hlin'⟩
    rw [linearises_unique hfree hlin hfree' hlin'] at hrepeated
    exact hrepeated hunique'
  · intro h
    constructor
    · intro t hfree hunique hlin
      exact (builds_iff hfree hlin).2 ((h t hfree hlin).1 hunique)
    · rintro hnone ⟨b, hb⟩
      obtain ⟨t, hfits, hfree, hlin, -⟩ := (pushAll_finish_iff values b).1 hb
      exact hnone ⟨t, hfree, (h t hfree hlin).2 hfits, hlin⟩

/-- `{"a": true, "A": false}` -/
def caseTwins : List JSONValue :=
  [.chars [0x7B], .chars [0x61], .bool true, .chars [0x41], .bool false, .chars [0x7D]]

/-- `["x"]` -/
def stringInArray : List JSONValue := [.chars [0x5B], .chars [0x78], .chars [0x5D]]

theorem caseTwins_and_stringInArray_not_correct : ¬ Correct caseTwins ∧ ¬ Correct stringInArray := by
  constructor
  · intro h
    let t : Json := .object [([0x61], .atom (.bool true)), ([0x41], .atom (.bool false))]
    have hfree : SymbolFree t := by simp [t, SymbolFree, NotSymbol, symbols]
    have hlin : Linearises caseTwins t := rfl
    have hbuilds := h.1 t hfree (by simp [t, UniqueKeys]) hlin
    obtain ⟨hkeys, -⟩ := Doc.every_object.1 ((builds_iff hfree hlin).1 hbuilds).2
    exact (List.pairwise_cons.mp hkeys.2).1 [0x41] (by simp) rfl
  · intro h
    let t : Json := .array [.atom (.text [0x78])]
    have hfree : SymbolFree t := by simp [t, SymbolFree, NotSymbol, symbols]
    have hlin : Linearises stringInArray t := rfl
    have hbuilds := h.1 t hfree (by simp [t, UniqueKeys]) hlin
    have hfits : (Doc.array [.atom (.text [0x78])] : Json).Fits grammar false := ((builds_iff hfree hlin).1 hbuilds).1
    cases hfits with
    | array hitems =>
      cases hitems _ List.mem_cons_self with
      | atom hloose => simp [grammar, Scalar.loose] at hloose

end AugmentedInsanity.Util.JsonBuilder
