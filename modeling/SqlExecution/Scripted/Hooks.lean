import SqlExecution.Scripted.Basic
import SqlExecution.Diagnostics.Interceptor

/-! Interceptors that follow a script: each hook may cancel the context, fail, be interrupted, and
supply a result of its own. -/

namespace SqlExecution

variable {α β : Type}

/-- What a hook makes of the result that comes in. -/
inductive ScriptedReply (β : Type) where
  | pass
  /-- It is withdrawn, so that the operation runs. -/
  | withdraw
  | supply (b : β)

structure ScriptedHook (β : Type) where
  cancels : Option CancelReason := none
  error : Option Error := none
  interrupt : Option Failure := none
  reply : ScriptedReply β := .pass

structure ScriptedResults where
  sets : List ResultSet
  recordsAffected : Int64

namespace ScriptedHook

def cancel (h : ScriptedHook β) : Act Script Unit :=
  match h.cancels with
  | some reason => Script.cancel reason
  | none => pure ()

def perform (h : ScriptedHook β) (reply : Act Script α) : Dual Script α where
  blocking := do
    h.cancel
    match h.error with
    | some e => return .error e
    | none => return .ok (← reply)
  async := do
    h.cancel
    match h.error, h.interrupt with
    | some e, _ => return .error (.error e)
    | none, some failure => return .error failure
    | none, none => return .ok (← reply)

def before (h : ScriptedHook β) (make : β → Act Script α) (i : Interception α) :
    Dual Script (Interception α) :=
  h.perform <| match h.reply with
    | .pass => pure i
    | .withdraw => pure .noResult
    | .supply b => return .hasResult (← make b)

def after (h : ScriptedHook β) (make : β → Act Script α) (a : α) : Dual Script α :=
  h.perform <| match h.reply with
    | .supply b => make b
    | _ => pure a

end ScriptedHook

/-- The forms of an operation that an interceptor has: asynchronous calls reach the blocking form
where only that is defined. -/
def Coverage.limit (c : Coverage) (d : Dual Script α) : Dual Script α :=
  match c with
  | .both => d
  | _ => .ofBlocking d.blocking

structure ScriptedChanges where
  tag : Option String := none
  text : Option String := none
  parameter : Option NativeParameter := none
  timeout : Option Nat := none

def ScriptedChanges.apply (changes : ScriptedChanges) (c : NativeCommand) : NativeCommand :=
  { c with
    tag := changes.tag.or c.tag
    text := changes.text.getD c.text
    parameters := c.parameters ++ changes.parameter.toList
    timeout := changes.timeout.or c.timeout }

structure ScriptedCommandHooks where
  /-- Supplies a command with a tag. -/
  creating : ScriptedHook (Option String) := {}
  created : ScriptedHook Unit := {}
  changes : ScriptedChanges := {}
  nonQueryExecuting : ScriptedHook Int64 := {}
  nonQueryExecuted : ScriptedHook Int64 := {}
  /-- Added to the number of rows before the executed hook replies. -/
  surplus : Int64 := 0
  scalarExecuting : ScriptedHook (Option Value) := {}
  scalarExecuted : ScriptedHook (Option Value) := {}
  readerExecuting : ScriptedHook ScriptedResults := {}
  readerExecuted : ScriptedHook ScriptedResults := {}
  failed : ScriptedHook Unit := {}
  disposing : ScriptedHook Unit := {}

namespace ScriptedCommandHooks

def makeCursor (event : CommandEvent) (r : ScriptedResults) : Act Script Cursor :=
  Script.makeCursor event.connection r.sets r.recordsAffected

def create (hooks : ScriptedCommandHooks) (c : NativeCommand) :
    Act Script (NativeCommand × Result Unit) := do
  match ← (hooks.created.perform (pure ())).blocking with
  | .ok () => return (hooks.changes.apply c, .ok ())
  | .error e => return (c, .error e)

def interceptor (name : String) (coverage : Coverage) (hooks : ScriptedCommandHooks) :
    CommandInterceptor Script :=
  if coverage = .none then .passThrough name
  else {
    name, coverage
    creating event i :=
      (hooks.creating.before (Script.makeCommand event.connection) i).blocking
    created _ c := hooks.create c
    nonQuery := {
      executing _ _ i := coverage.limit (hooks.nonQueryExecuting.before pure i)
      executed _ _ n := coverage.limit (hooks.nonQueryExecuted.after pure (n + hooks.surplus)) }
    scalar := {
      executing _ _ i := coverage.limit (hooks.scalarExecuting.before pure i)
      executed _ _ v := coverage.limit (hooks.scalarExecuted.after pure v) }
    reader := {
      executing _ event i := coverage.limit (hooks.readerExecuting.before (makeCursor event) i)
      executed _ event c := coverage.limit (hooks.readerExecuted.after (makeCursor event) c) }
    failed _ _ _ _ := hooks.failed.cancel
    disposing _ _ _ _ := hooks.disposing.cancel }

end ScriptedCommandHooks

structure ScriptedTransactionHooks where
  starting : ScriptedHook IsolationLevel := {}
  started : ScriptedHook IsolationLevel := {}

def ScriptedTransactionHooks.interceptor (name : String) (coverage : Coverage)
    (hooks : ScriptedTransactionHooks) : TransactionInterceptor Script :=
  if coverage = .none then .passThrough name
  else {
    name, coverage
    starting event i :=
      coverage.limit (hooks.starting.before (Script.makeTransaction event.connection) i)
    started event t :=
      coverage.limit (hooks.started.after (Script.makeTransaction event.connection) t) }

end SqlExecution
