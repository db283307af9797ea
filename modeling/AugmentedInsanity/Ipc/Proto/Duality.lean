/-
The client function and the case of `ipc_dispatch` that are written for one call, run side by side. Both follow
the exchange of the call, whichever operation fails and wherever a check stops the server.
-/
import Mathlib.Data.List.Infix
import AugmentedInsanity.Ipc.Proto.Generator

namespace AugmentedInsanity.Ipc.Generator

/-! ## Running statements -/

structure Op where
  dir : Dir
  type : CStruct
  handles : Option HandleType
  deriving DecidableEq

def Dir.dual : Dir → Dir
  | .send => .receive
  | .receive => .send

def Op.dual (op : Op) : Op := { op with dir := op.dir.dual }

abbrev XRT_MAX_IPC_HANDLES : ℕ := 16

/-- What a function meets: which of its operations succeed, what it finds in the messages, and the handler with
the operations of its own. -/
structure Env where
  succeeds : ℕ → Bool
  handleCount : ℕ
  handleCmd : String
  handlerSucceeds : Bool
  handlerOps : List Op
  hasModulesFor : String → Bool

structure Run where
  vars : List (Var × CStruct)
  ops : List Op
  ok : Bool
  locked : Bool
  handled : Option String
  deriving DecidableEq

def Run.start : Run := ⟨[], [], true, false, none⟩

def served (env : Env) (adapter : Option String) (name : String) : String :=
  if adapter.any env.hasModulesFor then "aug_adapter_" ++ name else "ipc_handle_" ++ name

/-- After a statement a function goes on, or returns. -/
inductive Flow
  | go (run : Run)
  | stop (run : Run)
  deriving DecidableEq

def Flow.run : Flow → Run
  | .go run => run
  | .stop run => run

/-- One statement; a variable that is not declared has no meaning. -/
def step (env : Env) (run : Run) : Stmt → Option Flow
  | .declare v type _ => some (.go { run with vars := (v, type) :: run.vars })
  | .lockMutex => some (.go { run with locked := true })
  | .unlockMutex => some (.go { run with locked := false })
  | .transfer dir v handles =>
    (run.vars.find? fun decl => decl.1 = v).map fun decl =>
      .go { run with ops := run.ops ++ [⟨dir, decl.2, handles⟩], ok := env.succeeds run.ops.length }
  | .resultHandler cleanup =>
    some (if run.ok then .go run else .stop { run with locked := run.locked && !cleanup })
  | .checkHandleCount =>
    some (if XRT_MAX_IPC_HANDLES < env.handleCount then .stop { run with ok := false } else .go run)
  | .checkHandleCmd id => some (if env.handleCmd ≠ id then .stop { run with ok := false } else .go run)
  | .invoke .replyResult adapter name _ => some (.go { run with handled := some (served env adapter name) })
  | .invoke .xret adapter name _ =>
    -- a handler of variable length sends its replies itself
    some (.go { run with
      handled := some (served env adapter name), ops := run.ops ++ env.handlerOps, ok := env.handlerSucceeds })
  | .copyOut _ => some (.go run)
  | .returnRet => some (.stop run)
  | .returnReplyResult => some (.stop run)

def exec (env : Env) : List Stmt → Run → Option Run
  | [], run => some run
  | stmt :: body, run =>
    match step env run stmt with
    | none => none
    | some (.stop run) => some run
    | some (.go run) => exec env body run

/-- Run functions one after the other, as long as they succeed. -/
def execAll (env : Env) : List (List Stmt) → Run → Option Run
  | [], run => some run
  | body :: bodies, run =>
    match exec env body { run with vars := [] } with
    | none => none
    | some run => if run.ok then execAll env bodies run else some run

@[simp] theorem exec_copyOut (env : Env) (args : List Arg) (body : List Stmt) (run : Run) :
    exec env (args.map (fun arg => Stmt.copyOut arg.name) ++ body) run = exec env body run := by
  induction args with
  | nil => rfl
  | cons arg args ih => exact ih

/-! ## Stopping early -/

/-- An environment in which nothing stops a function. -/
def Env.unhindered (env : Env) (id : String) : Env :=
  { env with succeeds := fun _ => true, handleCount := 0, handleCmd := id, handlerSucceeds := true }

structure Beside (run free : Run) : Prop where
  vars : run.vars = free.vars
  ops : run.ops = free.ops
  ok : free.ok = true

variable {env : Env} {id : String} {call : Call} {bodies : List (List Stmt)}

theorem step_extends {run : Run} {stmt : Stmt} {flow : Flow} (h : step env run stmt = some flow) :
    run.ops <+: flow.run.ops := by
  cases stmt with
  | transfer dir v handles =>
    obtain ⟨decl, -, rfl⟩ := Option.map_eq_some_iff.1 h
    exact List.prefix_append _ _
  | resultHandler cleanup =>
    cases h
    split
    · exact List.prefix_refl _
    · exact List.prefix_refl _
  | checkHandleCount =>
    cases h
    split
    · exact List.prefix_refl _
    · exact List.prefix_refl _
  | checkHandleCmd id =>
    cases h
    split
    · exact List.prefix_refl _
    · exact List.prefix_refl _
  | invoke target adapter name args =>
    cases target with
    | replyResult =>
      cases h
      exact List.prefix_refl _
    | xret =>
      cases h
      exact List.prefix_append _ _
  | _ =>
    cases h
    exact List.prefix_refl _

theorem step_beside {run free : Run} {stmt : Stmt} {flow : Flow} (hbeside : Beside run free)
    (hchecks : ∀ id', stmt = .checkHandleCmd id' → id' = id) (h : step (env.unhindered id) free stmt = some flow) :
    (∃ run' free', flow = .go free' ∧ step env run stmt = some (.go run') ∧ Beside run' free') ∨
      (∃ run' free', flow = .stop free' ∧ step env run stmt = some (.stop run') ∧ Beside run' free') ∨
      (flow = .go free ∧ ∃ stopped, step env run stmt = some (.stop stopped) ∧ stopped.ok = false ∧
        stopped.ops = free.ops) := by
  obtain ⟨hvars, hops, hok⟩ := hbeside
  cases stmt with
  | declare v type fields =>
    cases h
    exact Or.inl ⟨_, _, rfl, rfl, by rw [hvars], hops, hok⟩
  | lockMutex =>
    cases h
    exact Or.inl ⟨_, _, rfl, rfl, hvars, hops, hok⟩
  | unlockMutex =>
    cases h
    exact Or.inl ⟨_, _, rfl, rfl, hvars, hops, hok⟩
  | transfer dir v handles =>
    obtain ⟨decl, hdecl, rfl⟩ := Option.map_eq_some_iff.1 h
    have hstep : step env run (.transfer dir v handles) = some (.go
        { run with ops := run.ops ++ [⟨dir, decl.2, handles⟩], ok := env.succeeds run.ops.length }) := by
      rw [step, hvars, hdecl]
      rfl
    exact Or.inl ⟨_, _, rfl, hstep, hvars, by rw [hops], rfl⟩
  | resultHandler cleanup =>
    -- the free run goes on, and this one too unless its last transfer failed
    cases h
    rw [if_pos hok]
    cases hrun : run.ok with
    | true => exact Or.inl ⟨run, free, rfl, by rw [step, if_pos hrun], hvars, hops, hok⟩
    | false =>
      have hstop : step env run (.resultHandler cleanup) =
          some (.stop { run with locked := run.locked && !cleanup }) := by
        rw [step, if_neg (by rw [hrun]; exact Bool.false_ne_true)]
      exact Or.inr (Or.inr ⟨rfl, _, hstop, hrun, hops⟩)
  | checkHandleCount =>
    cases h
    have hcount : ¬ XRT_MAX_IPC_HANDLES < (env.unhindered id).handleCount := Nat.not_lt_zero _
    rw [if_neg hcount]
    by_cases hmany : XRT_MAX_IPC_HANDLES < env.handleCount
    · have hstop : step env run .checkHandleCount = some (.stop { run with ok := false }) := by
        rw [step, if_pos hmany]
      exact Or.inr (Or.inr ⟨rfl, _, hstop, rfl, hops⟩)
    · exact Or.inl ⟨run, free, rfl, by rw [step, if_neg hmany], hvars, hops, hok⟩
  | checkHandleCmd id' =>
    cases h
    have hcmd : (env.unhindered id).handleCmd = id' := (hchecks id' rfl).symm
    rw [if_neg (not_not.2 hcmd)]
    by_cases hother : env.handleCmd ≠ id'
    · have hstop : step env run (.checkHandleCmd id') = some (.stop { run with ok := false }) := by
        rw [step, if_pos hother]
      exact Or.inr (Or.inr ⟨rfl, _, hstop, rfl, hops⟩)
    · exact Or.inl ⟨run, free, rfl, by rw [step, if_neg hother], hvars, hops, hok⟩
  | invoke target adapter name args =>
    cases target with
    | replyResult =>
      cases h
      exact Or.inl ⟨_, _, rfl, rfl, hvars, hops, hok⟩
    | xret =>
      cases h
      exact Or.inl ⟨_, _, rfl, rfl, hvars, by rw [hops]; rfl, rfl⟩
  | copyOut arg =>
    cases h
    exact Or.inl ⟨_, _, rfl, rfl, hvars, hops, hok⟩
  | returnRet =>
    cases h
    exact Or.inr (Or.inl ⟨_, _, rfl, rfl, hvars, hops, hok⟩)
  | returnReplyResult =>
    cases h
    exact Or.inr (Or.inl ⟨_, _, rfl, rfl, hvars, hops, hok⟩)

theorem exec_extends {body : List Stmt} {run run' : Run} (h : exec env body run = some run') :
    run.ops <+: run'.ops := by
  induction body generalizing run with
  | nil =>
    cases h
    exact List.prefix_refl _
  | cons stmt body ih =>
    rw [exec] at h
    rcases hstep : step env run stmt with _ | middle | middle
    · rw [hstep] at h
      cases h
    · rw [hstep] at h
      exact (step_extends hstep).trans (ih h)
    · rw [hstep] at h
      cases h
      exact step_extends hstep

structure StopsWithin (stopped run : Run) : Prop where
  ops : stopped.ops <+: run.ops
  all : stopped.ok = true → stopped.ops = run.ops
  ok : run.ok = true

theorem exec_beside {body : List Stmt} {run free run' : Run} (hbeside : Beside run free)
    (hchecks : ∀ id', Stmt.checkHandleCmd id' ∈ body → id' = id) (h : exec (env.unhindered id) body free = some run') :
    ∃ stopped, exec env body run = some stopped ∧ StopsWithin stopped run' := by
  induction body generalizing run free with
  | nil =>
    cases h
    exact ⟨run, rfl, by rw [hbeside.ops], fun _ => hbeside.ops, hbeside.ok⟩
  | cons stmt body ih =>
    have hrest : ∀ id', Stmt.checkHandleCmd id' ∈ body → id' = id := fun id' hmem =>
      hchecks id' (List.mem_cons_of_mem _ hmem)
    have hfirst : ∀ id', stmt = .checkHandleCmd id' → id' = id := fun id' heq =>
      hchecks id' (heq ▸ List.mem_cons_self ..)
    rw [exec] at h
    rcases hfree : step (env.unhindered id) free stmt with _ | flow
    · rw [hfree] at h
      cases h
    · rw [hfree] at h
      rcases step_beside hbeside hfirst hfree with
        ⟨next, next', rfl, hstep, hnext⟩ | ⟨last, last', rfl, hstep, hlast⟩ | ⟨rfl, stopped, hstep, hfailed, hops⟩
      · rw [exec, hstep]
        exact ih hnext hrest h
      · cases h
        rw [exec, hstep]
        exact ⟨last, rfl, by rw [hlast.ops], fun _ => hlast.ops, hlast.ok⟩
      · -- stopped here: what the free run still does only extends what was done
        rw [exec, hstep]
        obtain ⟨-, -, -, -, hok⟩ := ih ⟨rfl, rfl, hbeside.ok⟩ hrest h
        refine ⟨stopped, rfl, ?_, ?_, hok⟩
        · rw [hops]
          exact exec_extends h
        · intro hsucceeded
          rw [hfailed] at hsucceeded
          cases hsucceeded

theorem execAll_extends {run run' : Run} (h : execAll env bodies run = some run') : run.ops <+: run'.ops := by
  induction bodies generalizing run with
  | nil =>
    cases h
    exact List.prefix_refl _
  | cons body bodies ih =>
    rw [execAll] at h
    cases hbody : exec env body { run with vars := [] } with
    | none =>
      rw [hbody] at h
      cases h
    | some middle =>
      have hfirst : run.ops <+: middle.ops := (exec_extends hbody :)
      rw [hbody] at h
      dsimp only at h
      split at h
      · exact hfirst.trans (ih h)
      · cases h
        exact hfirst

theorem execAll_beside {run free run' : Run} (hok : free.ok = true) (hops : run.ops = free.ops)
    (hchecks : ∀ body ∈ bodies, ∀ id', Stmt.checkHandleCmd id' ∈ body → id' = id)
    (h : execAll (env.unhindered id) bodies free = some run') :
    ∃ stopped, execAll env bodies run = some stopped ∧ stopped.ops <+: run'.ops := by
  induction bodies generalizing run free with
  | nil =>
    cases h
    exact ⟨run, rfl, by rw [hops]⟩
  | cons body bodies ih =>
    rw [execAll] at h
    cases hbody : exec (env.unhindered id) body { free with vars := [] } with
    | none =>
      rw [hbody] at h
      cases h
    | some middle =>
      have hbeside : Beside { run with vars := [] } { free with vars := [] } := ⟨rfl, hops, hok⟩
      obtain ⟨stopped, hstopped, hwithin⟩ := exec_beside hbeside (hchecks body (List.mem_cons_self ..)) hbody
      rw [hbody] at h
      dsimp only at h
      rw [if_pos hwithin.ok] at h
      rw [execAll, hstopped]
      dsimp only
      split
      · rename_i hsucceeded
        exact ih hwithin.ok (hwithin.all hsucceeded) (fun body' hmem => hchecks body' (List.mem_cons_of_mem _ hmem)) h
      · exact ⟨stopped, rfl, hwithin.ops.trans (execAll_extends h)⟩

/-! ## The exchange of a call -/

def Call.msgType (call : Call) : CStruct := if call.needsMsgStruct then .msg call else .commandMsg
def Call.replyType (call : Call) : CStruct := if call.outArgs.isEmpty then .resultReply else .reply call

def Call.exchange (call : Call) : List Op :=
  [⟨.send, call.msgType, none⟩] ++
    (if call.inHandles.isSome then [⟨.receive, .resultReply, none⟩, ⟨.send, .commandMsg, call.inHandles⟩] else []) ++
    [⟨.receive, call.replyType, call.outHandles⟩]

section
variable {call : Call}

theorem client_unhindered :
    ∃ run, execAll (env.unhindered call.id) (generateClientC call) .start = some run ∧ run.ops = call.exchange := by
  cases hvarlen : call.varlen with
  | true =>
    obtain ⟨hin, hout⟩ := call.noHandles hvarlen
    simp [generateClientC, hvarlen, execAll, writeSendDefinition, writeReceiveDefinition, writeMsgStruct,
      writeReplyStruct, writeMsgSend, exec, step, Run.start, Env.unhindered, hin, hout, Call.exchange, Call.msgType,
      Call.replyType]
  | false =>
    cases hin : call.inHandles with
    | none =>
      simp [generateClientC, hvarlen, execAll, writeCallDefinition, writeMsgStruct, writeReplyStruct, writeMsgSend, exec,
        step, Run.start, Env.unhindered, hin, Call.exchange, Call.msgType, Call.replyType]
    | some handles =>
      simp [generateClientC, hvarlen, execAll, writeCallDefinition, writeMsgStruct, writeReplyStruct, writeMsgSend, exec,
        step, Run.start, Env.unhindered, hin, Call.exchange, Call.msgType, Call.replyType]

theorem server_unhindered (hvarlen : call.varlen = false) :
    ∃ run, exec (env.unhindered call.id) (dispatchCase call) .start = some run ∧
      ⟨.receive, call.msgType, none⟩ :: run.ops = call.exchange.map Op.dual := by
  cases hin : call.inHandles with
  | none =>
    by_cases hmsg : call.needsMsgStruct = true <;> by_cases hout : call.outArgs = [] <;>
      simp [dispatchCase, hvarlen, hin, hmsg, hout, exec, step, Run.start, Env.unhindered, Call.exchange, Op.dual,
        Dir.dual, Call.msgType, Call.replyType]
  | some handles =>
    have hmsg : call.needsMsgStruct = true := by simp [Call.needsMsgStruct, hin]
    by_cases hout : call.outArgs = [] <;>
      simp [dispatchCase, hvarlen, hin, hmsg, hout, exec, step, Run.start, Env.unhindered, Call.exchange, Op.dual,
        Dir.dual, Call.msgType, Call.replyType]

theorem client_checks : ∀ body ∈ generateClientC call, ∀ id', Stmt.checkHandleCmd id' ∈ body → id' = call.id := by
  intro body hbody id' hmem
  unfold generateClientC at hbody
  split at hbody
  · simp only [List.mem_cons, List.not_mem_nil, or_false] at hbody
    rcases hbody with rfl | rfl
    · simp [writeSendDefinition, writeMsgStruct, writeMsgSend] at hmem
    · simp [writeReceiveDefinition, writeReplyStruct] at hmem
  · simp only [List.mem_cons, List.not_mem_nil, or_false] at hbody
    subst hbody
    simp [writeCallDefinition, writeMsgStruct, writeReplyStruct, writeMsgSend] at hmem

theorem server_checks : ∀ id', Stmt.checkHandleCmd id' ∈ dispatchCase call → id' = call.id := by
  intro id' hmem
  simp only [dispatchCase, List.mem_append] at hmem
  simp at hmem
  rcases hmem with ⟨-, hmem⟩ | ⟨-, hid⟩
  · split at hmem
    · simp at hmem
    · simp at hmem
  · exact hid

def Stmt.declared : Stmt → List (Var × CStruct)
  | .declare v type _ => [(v, type)]
  | _ => []

theorem step_before {stmt : Stmt} (hinvoke : ∀ target adapter name args, stmt ≠ .invoke target adapter name args)
    {run : Run} {flow : Flow} (h : step env run stmt = some flow) :
    flow.run.handled = run.handled ∧ flow.run.vars = stmt.declared ++ run.vars := by
  cases stmt with
  | invoke target adapter name args => exact absurd rfl (hinvoke target adapter name args)
  | transfer dir v handles =>
    obtain ⟨decl, -, rfl⟩ := Option.map_eq_some_iff.1 h
    exact ⟨rfl, rfl⟩
  | resultHandler cleanup =>
    cases h
    split
    · exact ⟨rfl, rfl⟩
    · exact ⟨rfl, rfl⟩
  | checkHandleCount =>
    cases h
    split
    · exact ⟨rfl, rfl⟩
    · exact ⟨rfl, rfl⟩
  | checkHandleCmd id =>
    cases h
    split
    · exact ⟨rfl, rfl⟩
    · exact ⟨rfl, rfl⟩
  | _ =>
    cases h
    exact ⟨rfl, rfl⟩

theorem exec_before {before after : List Stmt}
    (hinvoke : ∀ target adapter name args, Stmt.invoke target adapter name args ∉ before) {run run' : Run}
    (h : exec env (before ++ after) run = some run') :
    run'.handled = run.handled ∨
      ∃ mid, exec env after mid = some run' ∧ mid.vars = (before.flatMap Stmt.declared).reverse ++ run.vars := by
  induction before generalizing run with
  | nil => exact Or.inr ⟨run, h, rfl⟩
  | cons stmt before ih =>
    have hstmt : ∀ target adapter name args, stmt ≠ .invoke target adapter name args := by
      rintro target adapter name args rfl
      exact hinvoke target adapter name args (List.mem_cons_self ..)
    rw [List.cons_append, exec] at h
    split at h
    · cases h
    · rename_i stopped hstep
      cases h
      exact Or.inl (step_before hstmt hstep).1
    · rename_i gone hstep
      obtain ⟨hhandled, hvars⟩ := step_before hstmt hstep
      have hrest : ∀ target adapter name args, Stmt.invoke target adapter name args ∉ before :=
        fun target adapter name args hmem => hinvoke target adapter name args (List.mem_cons_of_mem _ hmem)
      rcases ih hrest h with hstopped | ⟨mid, hmid, hmidVars⟩
      · exact Or.inl (hstopped.trans hhandled)
      · refine Or.inr ⟨mid, hmid, ?_⟩
        rw [hmidVars, show gone.vars = stmt.declared ++ run.vars from hvars, List.flatMap_cons, List.reverse_append,
          List.append_assoc]
        cases stmt <;> rfl

def beforeHandler (call : Call) : List Stmt :=
  (if call.needsMsgStruct then [.declare .msg (.msg call) []] else []) ++
    (if !call.outArgs.isEmpty then [.declare .reply (.reply call) []] else [.declare .reply .resultReply []]) ++
    (if call.inHandles.isSome then
      [.declare .sync .resultReply [("result", "XRT_SUCCESS")], .declare .handleMsg .commandMsg [],
        .checkHandleCount, .transfer .send .sync none, .resultHandler false,
        .transfer .receive .handleMsg call.inHandles, .resultHandler false, .checkHandleCmd call.id]
    else [])

theorem dispatchCase_eq (hvarlen : call.varlen = false) :
    dispatchCase call = beforeHandler call ++ [.invoke .replyResult (implementedAdapter call.name) call.name
      (handlerArgs call), .transfer .send .reply call.outHandles, .returnRet] := by
  simp only [dispatchCase, beforeHandler, hvarlen, Bool.false_eq_true, if_false, List.append_assoc, List.cons_append,
    List.nil_append]

theorem beforeHandler_invoke (target : ReturnTarget) (adapter : Option String) (name : String) (args : List String) :
    Stmt.invoke target adapter name args ∉ beforeHandler call := by
  unfold beforeHandler
  repeat' split
  all_goals simp

theorem beforeHandler_reply :
    (((beforeHandler call).flatMap Stmt.declared).reverse.find? fun decl => decl.1 = .reply) =
      some (.reply, call.replyType) := by
  unfold beforeHandler Call.replyType
  repeat' split
  all_goals simp_all [Stmt.declared]

theorem server_replies (hvarlen : call.varlen = false) {run : Run} (h : exec env (dispatchCase call) .start = some run)
    (hhandled : run.handled ≠ none) : run.ops.getLast? = some ⟨.send, call.replyType, call.outHandles⟩ := by
  rw [dispatchCase_eq hvarlen] at h
  rcases exec_before beforeHandler_invoke h with hstopped | ⟨mid, hmid, hvars⟩
  · exact absurd hstopped hhandled
  · have hreply : (mid.vars.find? fun decl => decl.1 = .reply) = some (.reply, call.replyType) := by
      rw [hvars, Run.start, List.append_nil, beforeHandler_reply]
    simp only [exec, step, hreply, Option.map_some, Option.some.injEq] at hmid
    subst hmid
    exact List.getLast?_concat

theorem server_varlen (hvarlen : call.varlen = true) :
    ∃ run, exec env (dispatchCase call) .start = some run ∧ run.ops = env.handlerOps ∧ run.handled ≠ none := by
  obtain ⟨hin, hout⟩ := call.noHandles hvarlen
  by_cases hmsg : call.needsMsgStruct = true <;>
    simp [dispatchCase, hvarlen, hin, hmsg, exec, step, Run.start]

end

/-! ## A protocol -/

theorem find_call {p : Proto} (hcall : call ∈ p.calls) :
    (p.calls.find? fun other => other.id = call.id) = some call := by
  have hfind : ∀ calls : List Call, (calls.map Call.id).Nodup → call ∈ calls →
      (calls.find? fun other => other.id = call.id) = some call := by
    intro calls
    induction calls with
    | nil => intro _ hmem; cases hmem
    | cons other calls ih =>
      intro hnodup hmem
      rw [List.map_cons, List.nodup_cons] at hnodup
      rcases List.mem_cons.1 hmem with rfl | hmem
      · exact List.find?_cons_of_pos (by simp)
      · have hne : other.id ≠ call.id := fun heq => hnodup.1 (heq ▸ List.mem_map_of_mem hmem)
        rw [List.find?_cons_of_neg (by simpa using hne)]
        exact ih hnodup.2 hmem
  exact hfind p.calls p.ids_nodup hcall

theorem ipcDispatch_of_mem {p : Proto} (hcall : call ∈ p.calls) : ipcDispatch p call.id = some (dispatchCase call) := by
  rw [ipcDispatch, find_call hcall]
  rfl

theorem ipcCommandSize_of_mem {p : Proto} (size : String → ℕ) (hcall : call ∈ p.calls) :
    ipcCommandSize size p call.id = call.msgType.sizeof size := by
  rw [ipcCommandSize, find_call hcall]
  dsimp only
  unfold Call.msgType
  split
  · rfl
  · simp [CStruct.sizeof, CStruct.members]

/-- The code for a call: client and server do the operations of the same exchange, as far as each of them comes. -/
structure DualCall (size : String → ℕ) (p : Proto) (call : Call) : Prop where
  client : ∀ env, ∃ run, execAll env (generateClientC call) .start = some run ∧ run.ops <+: call.exchange
  clientAll : ∀ env, ∃ run, execAll (Env.unhindered env call.id) (generateClientC call) .start = some run ∧
    run.ops = call.exchange
  server : call.varlen = false → ∀ env, ∃ body run, ipcDispatch p call.id = some body ∧
    exec env body .start = some run ∧ ⟨.receive, call.msgType, none⟩ :: run.ops <+: call.exchange.map Op.dual
  serverAll : call.varlen = false → ∀ env, ∃ body run, ipcDispatch p call.id = some body ∧
    exec (Env.unhindered env call.id) body .start = some run ∧
      ⟨.receive, call.msgType, none⟩ :: run.ops = call.exchange.map Op.dual
  replies : call.varlen = false → ∀ env body run, ipcDispatch p call.id = some body →
    exec env body .start = some run → run.handled ≠ none →
      run.ops.getLast? = some ⟨.send, call.replyType, call.outHandles⟩
  /-- With a handler of variable length it is for the handler to send the reply first. -/
  varlen : call.varlen = true → ∀ env rest, ∃ body run, ipcDispatch p call.id = some body ∧
    exec env body .start = some run ∧ run.handled ≠ none ∧
      (⟨.receive, call.msgType, none⟩ :: run.ops = (call.exchange ++ rest).map Op.dual ↔
        env.handlerOps = ⟨.send, call.replyType, none⟩ :: rest.map Op.dual)
  commandSize : ipcCommandSize size p call.id = call.msgType.sizeof size

/-- The functions written for the two ends of any call do dual operations. -/
theorem generated_dual (size : String → ℕ) (p : Proto) (call : Call) (hcall : call ∈ p.calls) :
    DualCall size p call := by
  have hdispatch := ipcDispatch_of_mem hcall
  constructor
  · intro env
    obtain ⟨free, hfree, hops⟩ := @client_unhindered env call
    have hstart : Run.start.ops = Run.start.ops := rfl
    obtain ⟨run, hrun, hwithin⟩ := @execAll_beside env _ _ _ _ _ rfl hstart client_checks hfree
    exact ⟨run, hrun, hops ▸ hwithin⟩
  · exact fun env => client_unhindered
  · intro hvarlen env
    obtain ⟨free, hfree, hops⟩ := @server_unhindered env call hvarlen
    have hstart : Beside Run.start Run.start := ⟨rfl, rfl, rfl⟩
    obtain ⟨run, hrun, hwithin⟩ := @exec_beside env _ _ _ _ _ hstart server_checks hfree
    refine ⟨_, run, hdispatch, hrun, ?_⟩
    rw [← hops]
    exact (List.prefix_cons_inj _).2 hwithin.ops
  · intro hvarlen env
    obtain ⟨run, hrun, hops⟩ := @server_unhindered env call hvarlen
    exact ⟨_, run, hdispatch, hrun, hops⟩
  · intro hvarlen env body run hbody hrun hhandled
    rw [hdispatch, Option.some.injEq] at hbody
    subst hbody
    exact server_replies hvarlen hrun hhandled
  · intro hvarlen env rest
    obtain ⟨run, hrun, hops, hhandled⟩ := @server_varlen env call hvarlen
    obtain ⟨hin, hout⟩ := call.noHandles hvarlen
    refine ⟨_, run, hdispatch, hrun, hhandled, ?_⟩
    rw [hops]
    simp [Call.exchange, hin, hout, Op.dual, Dir.dual]
  · exact ipcCommandSize_of_mem size hcall

/-- `swapchain_import`, a call with handles. -/
def swapchainImport : Call where
  id := "IPC_SWAPCHAIN_IMPORT"
  name := "swapchain_import"
  inArgs := [⟨"info", "struct xrt_swapchain_create_info", .aggregate⟩,
    ⟨"args", "struct ipc_arg_swapchain_from_native", .aggregate⟩]
  outArgs := [⟨"id", "uint32_t", .standardScalar⟩]
  inHandles := some ⟨"graphics_buffer"⟩
  outHandles := none
  varlen := false
  noHandles h := by cases h

/-- `device_get_info`, a call of variable length. -/
def deviceGetInfo : Call where
  id := "IPC_DEVICE_GET_INFO"
  name := "device_get_info"
  inArgs := [⟨"device_id", "uint32_t", .standardScalar⟩]
  outArgs := [⟨"info", "struct ipc_device_info", .aggregate⟩]
  inHandles := none
  outHandles := none
  varlen := true
  noHandles _ := ⟨rfl, rfl⟩

theorem twoIds_nodup : ([swapchainImport, deviceGetInfo].map Call.id).Nodup := by decide

def twoCalls : Proto := ⟨[swapchainImport, deviceGetInfo], twoIds_nodup⟩

theorem generated_dual_twoCalls :
    DualCall (fun _ => 4) twoCalls swapchainImport ∧ DualCall (fun _ => 4) twoCalls deviceGetInfo :=
  ⟨generated_dual _ twoCalls swapchainImport (List.mem_cons_self ..),
    generated_dual _ twoCalls deviceGetInfo (List.mem_cons_of_mem _ (List.mem_cons_self ..))⟩

end AugmentedInsanity.Ipc.Generator
