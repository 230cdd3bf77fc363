import SqlExecution.Engine.Inspect
import SqlExecution.Scenario.Step

/-! What scenarios are played on: the engine over the scripted driver, and the names that steps give
to connections, loggers and transactions. -/

namespace SqlExecution.Scenario

variable {α : Type}

structure Stage where
  workspace : Workspace Script := .begun ⟨{}, none⟩
  connections : List (String × ConnectionId) := []
  loggers : List (String × Logger Script) := []
  /-- Transactions begun outside, by label. -/
  externals : List (String × NativeTransaction) := []
  /-- The names that connections were made under, also of those replaced since. -/
  names : List (ConnectionId × String) := []

structure ReaderInfo where
  fields : Nat
  recordsAffected : Int64
  readCount : Nat
  isBuffered : Bool
  commandId : Option CommandId
  connection : Option ConnectionId
  command : Option NativeCommand

inductive Reply where
  | nothing
  | operation (answer : Answer Script)
  | raised (create execute transaction : Bool)
  | connected (timeout : Option Nat) (hasLogger : Bool)
  | declared (statement : Statement)
  | built (result : Result Statement)
  | populated (statement : Statement)
  | reader (info : ReaderInfo)
  | text (m : Message)
  /-- Everything alive went out of scope. -/
  | finished

/-- What steps do; there is no value when something unknown is named. -/
abbrev Staging (α : Type) := StateT Stage Option α

namespace Staging

def engine (m : Engine Script α) : Staging α := fun s =>
  let (a, workspace) := Program.engine m s.workspace
  some (a, { s with workspace := workspace })

def operate (op : Operation Script) : Staging Reply := fun s =>
  match op.perform s.workspace with
  | (.noCommand, _) => none
  | (answer, workspace) => some (.operation answer, { s with workspace := workspace })

def findConnection (name : String) : Staging ConnectionId := do
  liftM (Named.find? name (← get).connections)

def findLogger (name : String) : Staging (Logger Script) := do
  liftM (Named.find? name (← get).loggers)

def findCommand (name : String) : Staging (Command Script) := do
  liftM (Named.find? name (← get).workspace.commands)

def resolve (r : NamedRequest) : Staging (Request Script) := do
  let id ← findConnection r.connection
  let plain ← engine (Request.of id)
  let logger ← match r.logger with
    | none => pure plain.logger
    | some none => pure none
    | some (some name) => some <$> findLogger name
  let request : Request Script := { plain with
    values := r.values
    columns := r.columns
    context := r.context
    logger := logger
    detailedErrors := r.detailedErrors.getD plain.detailedErrors
    source := r.source.getD plain.source }
  if r.isNoted then engine (Engine.record (.request request.inspect))
  return request

def external (label : String) (id : ConnectionId) (isolation : IsolationLevel) :
    Staging NativeTransaction := do
  match Named.find? label (← get).externals with
  | some t => return t
  | none =>
    let t : NativeTransaction := ⟨id, label, isolation⟩
    modify fun s => { s with externals := Named.insert label t s.externals }
    return t

def connect (name : String) (settings : ScriptedConnection) (timeout : Option Nat)
    (loggerName : Option String) (reportsWrapping : Bool) : Staging Reply := do
  let logger ← loggerName.mapM findLogger
  let id ← engine do
    let id ← Engine.connect { timeout, logger, reportsWrapping }
    Engine.act (Script.modifyConnection id fun _ => settings)
    return id
  modify fun s => { s with
    connections := Named.insert name id s.connections
    names := (id, name) :: s.names }
  return .connected timeout logger.isSome

def readerInfo (r : DataReader Script) : Staging ReaderInfo := do
  let fields ← engine r.fieldCount
  let recordsAffected ← engine r.recordsAffected
  let commandId := r.ticket.bind (← get).workspace.session.commandIds
  let binding := r.phase.binding?
  return { fields, recordsAffected, readCount := r.readCount, isBuffered := r.isBuffered, commandId,
           connection := binding.map (·.info.connection), command := binding.map (·.command) }

def driverName : String := "MockDb"

def inspect (what : Inspected) (name : String) : Staging Reply := do
  match what with
  | .connection =>
    let id ← findConnection name
    return .text (← engine (id.inspect driverName))
  | .logger => return .text (← findLogger name).inspect
  | .command =>
    let c ← findCommand name
    return .text (← engine c.inspect)
  | .transaction =>
    match Named.find? name (← get).workspace.transactions with
    | some t => return .text t.inspect
    | none => return .operation .noTransaction
  | .reader =>
    let c ← findCommand name
    return .text (Text.optionText (← c.reader.mapM fun r => engine r.inspect))

def execution (method : Method) (command : String) (r : Request Script) (mode : Mode) :
    Operation Script :=
  match method with
  | .nonQuery => .executeNonQuery command r mode
  | .scalar => .executeScalar command r mode
  | .reader => .executeReader command r mode

end Staging

end SqlExecution.Scenario
