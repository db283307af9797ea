/-
The generator of the IPC code (`proto.py`, `ipcproto/common.py`): what it accepts as the description of a call,
and the C it writes for one. A function of C is a list of statements; the texts that are only printed are left
out.
-/
import Mathlib.Algebra.Ring.Nat
import Mathlib.Data.List.Nodup

namespace AugmentedInsanity.Ipc.Generator

/-! ## Descriptions -/

inductive ArgKind
  | standardScalar
  | aggregate
  | enum
  deriving DecidableEq

/-- `class Arg`. -/
structure Arg where
  name : String
  typename : String
  kind : ArgKind
  deriving DecidableEq

def SCALAR_TYPES : List String := ["uint32_t", "int64_t", "uint64_t", "bool", "float"]

def startsName (words : List String) (typename : String) : Bool :=
  words.any fun word =>
    word.toList.isPrefixOf typename.toList &&
      ((typename.toList.drop word.length).head?.any fun ch => ch.isLower || ch == '_')

/-- `Arg.AGGREGATE_RE`. -/
def AGGREGATE_RE : List String :=
  ["const struct xrt_", "const struct ipc_", "struct xrt_", "struct ipc_", "union xrt_", "union ipc_"]

/-- `Arg.ENUM_RE`. -/
def ENUM_RE : List String := ["enum xrt_"]

/-- `Arg.__init__`. -/
def Arg.init (name typename : String) : Except String Arg :=
  if SCALAR_TYPES.contains typename then .ok ⟨name, typename, .standardScalar⟩
  else if startsName AGGREGATE_RE typename then .ok ⟨name, typename, .aggregate⟩
  else if startsName ENUM_RE typename then .ok ⟨name, typename, .enum⟩
  else .error ("Could not process type name: " ++ typename)

/-- `class HandleType`, with the part of `xrt_…_handle_t` that is its own. -/
structure HandleType where
  stem : String
  deriving DecidableEq

def HandleType.typename (h : HandleType) : String := "xrt_" ++ h.stem ++ "_handle_t"
def HandleType.argName (_ : HandleType) : String := "handles"
def HandleType.countArgName (_ : HandleType) : String := "handle_count"
def HandleType.countArgType (_ : HandleType) : String := "uint32_t"

/-- `class Call`; a call of variable length has no handles. -/
structure Call where
  id : String
  name : String
  inArgs : List Arg
  outArgs : List Arg
  inHandles : Option HandleType
  outHandles : Option HandleType
  varlen : Bool
  noHandles : varlen = true → inHandles = none ∧ outHandles = none
  deriving DecidableEq

/-- `Call.__init__`. -/
def Call.init (name : String) (id : Option String) (inArgs outArgs : List Arg)
    (inHandles outHandles : Option HandleType)
    (varlen : Bool) : Except String Call :=
  if h : varlen = true ∧ (inHandles ≠ none ∨ outHandles ≠ none) then
    .error "Can not have handles with varlen functions"
  else
    let default := "IPC_" ++ name.toUpper
    .ok ⟨if id.getD "" = "" then default else id.getD "", name, inArgs, outArgs, inHandles, outHandles, varlen, by
      intro hvarlen
      by_contra hsome
      exact h ⟨hvarlen, by tauto⟩⟩

def Call.needsMsgStruct (call : Call) : Bool := !call.inArgs.isEmpty || call.inHandles.isSome

/-- `class Proto`; the ids are the enumerators of `enum ipc_command`. -/
structure Proto where
  calls : List Call
  ids_nodup : (calls.map Call.id).Nodup

/-! ## The header -/

/-- The structs of `ipc_protocol_generated.h`. -/
inductive CStruct
  | commandMsg
  | resultReply
  | msg (call : Call)
  | reply (call : Call)
  deriving DecidableEq

/-- The type and name of each member (`generate_h` and its template). -/
def CStruct.members : CStruct → List (String × String)
  | .commandMsg => [("enum ipc_command", "cmd")]
  | .resultReply => [("xrt_result_t", "result")]
  | .msg call =>
    ("enum ipc_command", "cmd") :: call.inArgs.map (fun arg => (arg.typename, arg.name)) ++
      call.inHandles.toList.map fun h => (h.countArgType, h.countArgName)
  | .reply call => ("xrt_result_t", "result") :: call.outArgs.map fun arg => (arg.typename, arg.name)

/-- `sizeof` of a struct, from those of the types; the structs are packed. -/
def CStruct.sizeof (size : String → ℕ) (type : CStruct) : ℕ := (type.members.map fun m => size m.1).sum

/-! ## Statements -/

inductive Var
  | msg
  | reply
  | sync
  | handleMsg
  deriving DecidableEq

inductive Dir
  | send
  | receive
  deriving DecidableEq

inductive ReturnTarget
  | replyResult
  | xret
  deriving DecidableEq

inductive Stmt
  /-- A variable, with the members that are initialised and to what. -/
  | declare (v : Var) (type : CStruct) (fields : List (String × String))
  | lockMutex
  | unlockMutex
  /-- `ipc_send`, `ipc_receive` or their variants for handles, on a variable and its `sizeof`. -/
  | transfer (dir : Dir) (v : Var) (handles : Option HandleType)
  /-- Return the last result if it is not `XRT_SUCCESS`. -/
  | resultHandler (cleanup : Bool)
  /-- Return `XRT_ERROR_IPC_FAILURE` for more handles than `XRT_MAX_IPC_HANDLES`. -/
  | checkHandleCount
  /-- Return `XRT_ERROR_IPC_FAILURE` if the message with the handles has another command. -/
  | checkHandleCmd (id : String)
  /-- The handler, or the adapter if modules are registered for the name. -/
  | invoke (target : ReturnTarget) (adapter : Option String) (name : String) (args : List String)
  | copyOut (arg : String)
  | returnRet
  | returnReplyResult
  deriving DecidableEq

def writeMsgStruct (call : Call) : List Stmt :=
  [.declare .msg (if call.needsMsgStruct then .msg call else .commandMsg)
    (("cmd", call.id) ::
      call.inArgs.map (fun arg => (arg.name, if arg.kind = .aggregate then "*" ++ arg.name else arg.name)) ++
      call.inHandles.toList.map fun h => (h.countArgName, h.countArgName))]

def writeReplyStruct (call : Call) : List Stmt :=
  .declare .reply (if call.outArgs.isEmpty then .resultReply else .reply call) [] ::
    if call.inHandles.isSome then [.declare .sync .resultReply []] else []

def writeMsgSend : List Stmt := [.transfer .send .msg none]

/-! ## The client -/

def writeSendDefinition (call : Call) : List Stmt := writeMsgStruct call ++ writeMsgSend ++ [.returnRet]

def writeReceiveDefinition (call : Call) : List Stmt :=
  writeReplyStruct call ++ [.transfer .receive .reply none, .resultHandler false] ++
    call.outArgs.map (fun arg => .copyOut arg.name) ++ [.returnReplyResult]

def writeCallDefinition (call : Call) : List Stmt :=
  writeMsgStruct call ++ writeReplyStruct call ++ [.lockMutex] ++ writeMsgSend ++ [.resultHandler true] ++
    (if call.inHandles.isSome then
      [.transfer .receive .sync none, .resultHandler true, .declare .handleMsg .commandMsg [("cmd", call.id)],
        .transfer .send .handleMsg call.inHandles, .resultHandler true]
    else []) ++
    [.transfer .receive .reply call.outHandles, .resultHandler true] ++
    call.outArgs.map (fun arg => .copyOut arg.name) ++ [.unlockMutex, .returnReplyResult]

/-- The functions that `generate_client_c` writes for a call, in the order in which they are called. -/
def generateClientC (call : Call) : List (List Stmt) :=
  if call.varlen then [writeSendDefinition call, writeReceiveDefinition call] else [writeCallDefinition call]

/-! ## The server -/

/-- `aug_ipc_to_xr`, for the names of `aug_implemented_adapters`. -/
def implementedAdapter : String → Option String
  | "space_locate_space" => some "xrLocateSpace"
  | "space_locate_device" => some "aug_LocateDeviceInSpace"
  | _ => none

/-- The arguments of `ipc_handle_CALLNAME`. -/
def handlerArgs (call : Call) : List String :=
  "ics" ::
    call.inArgs.map (fun arg => if arg.kind = .aggregate then "&msg->" ++ arg.name else "msg->" ++ arg.name) ++
    (if call.varlen then [] else call.outArgs.map fun arg => "&reply." ++ arg.name) ++
    call.outHandles.toList.flatMap (fun h => ["XRT_MAX_IPC_HANDLES", h.argName, "&" ++ h.countArgName]) ++
    call.inHandles.toList.flatMap fun h => ["&in_" ++ h.argName ++ "[0]", "msg->" ++ h.countArgName]

/-- The case of a call in `ipc_dispatch` (`generate_server_c`). -/
def dispatchCase (call : Call) : List Stmt :=
  (if call.needsMsgStruct then [.declare .msg (.msg call) []] else []) ++
    (if call.varlen then []
    else if !call.outArgs.isEmpty then [.declare .reply (.reply call) []]
    else [.declare .reply .resultReply []]) ++
    (if call.inHandles.isSome then
      [.declare .sync .resultReply [("result", "XRT_SUCCESS")], .declare .handleMsg .commandMsg [],
        .checkHandleCount, .transfer .send .sync none, .resultHandler false,
        .transfer .receive .handleMsg call.inHandles, .resultHandler false, .checkHandleCmd call.id]
    else []) ++
    [.invoke (if call.varlen then .xret else .replyResult) (if call.varlen then none else implementedAdapter call.name)
      call.name (handlerArgs call)] ++
    (if call.varlen then [] else [.transfer .send .reply call.outHandles]) ++ [.returnRet]

/-- The switch of `ipc_dispatch`. -/
def ipcDispatch (p : Proto) (cmd : String) : Option (List Stmt) :=
  (p.calls.find? fun call => call.id = cmd).map dispatchCase

def ipcCommandSize (size : String → ℕ) (p : Proto) (cmd : String) : ℕ :=
  match p.calls.find? fun call => call.id = cmd with
  | some call => if call.needsMsgStruct then (CStruct.msg call).sizeof size else size "enum ipc_command"
  | none => 0

end AugmentedInsanity.Ipc.Generator
