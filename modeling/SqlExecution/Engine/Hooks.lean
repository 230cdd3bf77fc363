import SqlExecution.Engine.Session

/-! Raising events: a trace record, then the interceptors in order, each given what the one before
it returned. The first hook that fails ends the event. An asynchronous event stops before the next
hook once the context is cancelled. -/

namespace SqlExecution

variable {σ α ι : Type}

namespace Trace

def commandTarget : String := "relcmd::command"

def readerTarget : String := "relcmd::reader"

def connectionTarget : String := "relcmd::connection"

def transactionTarget : String := "relcmd::transaction"

/-- How long an operation took. No clock runs here, so every duration is zero. -/
def elapsed : String := "(0ms)"

def connectionField (id : ConnectionId) : String × TraceValue := ("connection_id", .text id)

def transactionField (id : TransactionId) : String × TraceValue := ("transaction_id", .text id)

def errorField (e : Error) : String × TraceValue := ("error", .text e.message)

def commandFields (e : CommandEvent) : List (String × TraceValue) :=
  [("command_id", .text e.commandId), connectionField e.connection]

def methodField (e : CommandEvent) : String × TraceValue := ("method", .text e.method.verb)

def sourceField (e : CommandEvent) : String × TraceValue := ("source", .text e.source.name)

end Trace

open Trace

def Attempt.foldHooks (mode : Mode) (stops : Bool) (deliver : ι → α → Engine σ Unit)
    (hook : ι → α → Dual σ α) : List ι → α → Attempt σ α
  | [], a => pure a
  | i :: rest, a => do
    if stops then Attempt.checkpoint mode
    deliver i a
    let next ← ExceptT.mk (Engine.act ((hook i a).perform mode))
    foldHooks mode stops deliver hook rest next

structure ExecutionInfo where
  ticket : Ticket
  context : Option String
  connection : ConnectionId
  method : Method
  source : CommandSource
  mode : Mode
  deriving DecidableEq, Repr

/-- The event of an execution; raising the first one mints the identifier. -/
def ExecutionInfo.event (info : ExecutionInfo) : Engine σ CommandEvent := do
  let id ← Engine.commandId info.ticket
  return ⟨info.context, info.connection, id, info.method, info.source, info.mode.isAsync⟩

namespace Logger

def delivery (i : CommandInterceptor σ) (hook : Hook) (mode : Mode) (event : CommandEvent)
    (command : Option NativeCommand) (input : HookInput) : Engine σ Unit :=
  Engine.record (.hook ⟨i.name, i.coverage, hook, mode, .command event command, input⟩)

/-- Before a native command is created; creating has no asynchronous form. -/
def commandCreating (l : Logger σ) (event : CommandEvent) :
    Attempt σ (Interception NativeCommand) := do
  Attempt.trace .debug commandTarget ("Creating DbCommand for '" ++ event.method.verb ++ "'")
    (commandFields event ++ [methodField event])
  Attempt.foldHooks .blocking false
    (fun i r => delivery i .commandCreating .blocking event none (.offered (r.map .command)))
    (fun i r => .ofBlocking (i.creating event r)) l.commandInterceptors .noResult

/-- Offer a created command to the hooks in order. The command is returned as the last hook left it,
also when that hook failed. -/
def foldCreated (event : CommandEvent) :
    List (CommandInterceptor σ) → NativeCommand → Engine σ (NativeCommand × Result Unit)
  | [], c => pure (c, .ok ())
  | i :: rest, c => do
    delivery i .commandCreated .blocking event (some c) .nothing
    match ← Engine.act (i.created event c) with
    | (c, .ok ()) => foldCreated event rest c
    | (c, .error e) => pure (c, .error e)

def commandCreated (l : Logger σ) (event : CommandEvent) (c : NativeCommand) :
    Engine σ (NativeCommand × Result Unit) := do
  Engine.trace .debug commandTarget ("Created DbCommand for '" ++ event.method.verb ++ "' " ++ elapsed)
    (commandFields event)
  foldCreated event l.commandInterceptors c

def executing (l : Logger σ) (mode : Mode) (around : CommandInterceptor σ → Around σ α)
    (payload : α → Engine σ Payload) (c : NativeCommand) (event : CommandEvent) :
    Attempt σ (Interception α) := do
  Attempt.trace .debug commandTarget ("Executing DbCommand [" ++ l.describe c ++ "]\n" ++ c.text)
    (commandFields event ++ [methodField event, sourceField event, ("is_async", .bool event.isAsync)])
  Attempt.foldHooks mode true
    (fun i r => do
      delivery i (.executing event.method) mode event (some c) (.offered (← r.mapM payload)))
    (fun i r => (around i).executing c event r) l.commandInterceptors .noResult

def executed (l : Logger σ) (mode : Mode) (around : CommandInterceptor σ → Around σ α)
    (payload : α → Engine σ Payload) (c : NativeCommand) (event : CommandEvent) (result : α) :
    Attempt σ α := do
  Attempt.trace .info commandTarget
    ("Executed DbCommand " ++ elapsed ++ " [" ++ l.describe c ++ "]\n" ++ c.text)
    (commandFields event ++ [methodField event, sourceField event])
  Attempt.foldHooks mode true
    (fun i a => do
      delivery i (.executed event.method) mode event (some c) (.given (← payload a)))
    (fun i a => (around i).executed c event a) l.commandInterceptors result

def commandFailed (l : Logger σ) (mode : Mode) (c : NativeCommand) (event : CommandEvent)
    (e : Error) : Engine σ Unit := do
  Engine.trace .error commandTarget
    ("Failed executing DbCommand " ++ elapsed ++ " [" ++ l.describe c ++ "]\n" ++ c.text)
    (commandFields event ++ [methodField event, errorField e])
  l.commandInterceptors.forM fun i => do
    delivery i .commandFailed mode event (some c) (.given (.error e))
    Engine.act (i.failed mode c event e)

def readerDisposing (l : Logger σ) (mode : Mode) (c : NativeCommand) (event : CommandEvent)
    (disposal : Disposal) : Engine σ Unit := do
  Engine.trace .debug readerTarget
    ("Closing data reader after " ++ Value.intText disposal.readCount ++ " rows " ++ elapsed)
    (commandFields event ++ [("read_count", .int disposal.readCount),
      ("records_affected", .int disposal.recordsAffected.toInt)])
  l.commandInterceptors.forM fun i => do
    delivery i .readerDisposing mode event (some c) (.given (.disposal disposal))
    Engine.act (i.disposing mode c event disposal)

def transactionDelivery (i : TransactionInterceptor σ) (hook : Hook) (mode : Mode)
    (event : TransactionEvent) (input : HookInput) : Engine σ Unit :=
  Engine.record (.hook ⟨i.name, i.coverage, hook, mode, .transaction event, input⟩)

def transactionFields (e : TransactionEvent) : List (String × TraceValue) :=
  [transactionField e.transactionId, connectionField e.connection]

def transactionStarting (l : Logger σ) (mode : Mode) (event : TransactionEvent) :
    Attempt σ (Interception NativeTransaction) := do
  Attempt.trace .debug transactionTarget
    ("Beginning transaction with isolation level '" ++ event.isolation.name ++ "'")
    (transactionFields event ++ [("isolation_level", .text event.isolation.name)])
  Attempt.foldHooks mode true
    (fun i r => transactionDelivery i .transactionStarting mode event (.offered (r.map .transaction)))
    (fun i r => i.starting event r) l.transactionInterceptors .noResult

/-- After a transaction was begun or supplied; nothing stops this event but a hook that fails. -/
def transactionStarted (l : Logger σ) (mode : Mode) (event : TransactionEvent)
    (t : NativeTransaction) : Attempt σ NativeTransaction := do
  Attempt.trace .debug transactionTarget
    ("Began transaction with isolation level '" ++ event.isolation.name ++ "'")
    (transactionFields event)
  Attempt.foldHooks mode false
    (fun i t => transactionDelivery i .transactionStarted mode event (.given (.transaction t)))
    (fun i t => i.started event t) l.transactionInterceptors t

end Logger

end SqlExecution
