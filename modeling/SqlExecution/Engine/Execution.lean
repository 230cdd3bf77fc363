import SqlExecution.Engine.Request

/-! Executing statements. A native command is created and configured, the connection is opened, and
the command is executed, with events around each step. Whatever fails after the native command
exists is reported, and then the command is released, with the open if there is one. -/

namespace SqlExecution

variable {σ α : Type}

open Trace

/-- One way to execute: the native operation, the hooks around it, and how its result is shown. -/
structure Shape (σ α : Type) where
  method : Method
  native : NativeCommand → Dual σ α
  around : CommandInterceptor σ → Around σ α
  payload : α → Engine σ Payload

namespace Shape

variable [Driver σ]

def nonQuery : Shape σ Int64 :=
  ⟨.nonQuery, Driver.executeNonQuery, (·.nonQuery), fun n => pure (.rows n)⟩

def scalar : Shape σ (Option Value) :=
  ⟨.scalar, Driver.executeScalar, (·.scalar), fun v => pure (.scalar v)⟩

def reader : Shape σ Cursor :=
  ⟨.reader, Driver.executeReader, (·.reader), fun c => return .cursor c (← c.fieldCount)⟩

end Shape

/-- A finished execution whose command is still to be released. -/
structure Execution (α : Type) where
  output : α
  command : NativeCommand
  info : ExecutionInfo

namespace NativeCommand

def configure (text : String) (connection : Connection σ) (c : NativeCommand) : NativeCommand :=
  { c with
    text := text
    transaction := (connection.ambient.map (·.native)).or c.transaction
    timeout := connection.timeout.or c.timeout }

def addParameters (ps : List NativeParameter) (c : NativeCommand) : NativeCommand :=
  { c with parameters := c.parameters ++ ps }

end NativeCommand

namespace Statement

/-- Bind the declared parameters; without values, the first of them is missing. -/
def bind (s : Statement) (values : Option Parameter.Values) : Parameter.Binding :=
  match s.parameters, values with
  | [], _ => ⟨[], .ok ()⟩
  | p :: _, none => ⟨[], .error (.missingParameter p.invariant)⟩
  | ps, some values => Parameter.bindAll values ps

def validate (s : Statement) (values : Option Parameter.Values) : Result Unit :=
  Parameter.checkValues s.parameters values

variable [Driver σ]

/-- Report a failed execution, then release its command and, where there is one, its open. What
fails in releasing them is only logged. -/
def abandon (mode : Mode) (logger : Option (Logger σ)) (info : ExecutionInfo) (c : NativeCommand)
    (e : Error) (opened : Bool) : Engine σ Unit := do
  if let some logger := logger then
    logger.commandFailed mode c (← info.event) e
  let disposed ← c.discard mode
  let closed ← if opened then info.connection.releaseOutcome mode else pure (.ok ())
  let complain := Engine.warn commandTarget "Cleanup after a failed command also failed"
    [connectionField info.connection]
  complain disposed
  complain closed

def giveUp (mode : Mode) (logger : Option (Logger σ)) (info : ExecutionInfo) (c : NativeCommand)
    (failure : Failure) (opened : Bool) : Attempt σ α := do
  Attempt.lift (abandon mode logger info c failure.toError opened)
  throw failure

def create (info : ExecutionInfo) : Attempt σ NativeCommand :=
  Attempt.callPlain (.createCommand info.connection) (Driver.createCommand info.connection)

/-- A native command from the creating hooks or else from the driver, as the created hooks left it,
and whether those succeeded. -/
def obtain (info : ExecutionInfo) : Option (Logger σ) → Attempt σ (NativeCommand × Result Unit)
  | none => return (← create info, .ok ())
  | some logger => do
    let event ← Attempt.lift info.event
    let c ← match ← logger.commandCreating event with
      | .hasResult c => pure c
      | .noResult => create info
    Attempt.lift (logger.commandCreated event c)

/-- Create and configure a native command. If a created hook or the binding fails, the command is
abandoned; that is reported also where only creating events are raised. -/
def prepare (s : Statement) (mode : Mode) (r : Request σ) (info : ExecutionInfo) :
    Attempt σ NativeCommand := do
  let limit := (← get).traceLimit
  let reporting := r.logger.filter fun l => l.raisesCreate limit || l.raisesExecute limit
  let (c, hooked) ← obtain info (r.logger.filter (·.raisesCreate limit))
  if let .error e := hooked then giveUp mode reporting info c (.error e) false
  let binding := s.bind r.values
  let c := (c.configure s.text ((← get).connections r.connection)).addParameters binding.added
  if let .error e := binding.result then giveUp mode reporting info c (.error e) false
  return c

def run (shape : Shape σ α) (mode : Mode) (logger : Option (Logger σ)) (info : ExecutionInfo)
    (c : NativeCommand) : Attempt σ α := do
  let native : Attempt σ α := Attempt.call (.execute shape.method c mode) mode (shape.native c)
  Attempt.checkpoint mode
  match logger with
  | none => native
  | some logger =>
    let event ← Attempt.lift info.event
    let result ← match ← logger.executing mode shape.around shape.payload c event with
      | .hasResult a => pure a
      | .noResult => do
        Attempt.checkpoint mode
        native
    logger.executed mode shape.around shape.payload c event result

/-- Take an open for an execution, unless its context is cancelled. -/
def openFor (mode : Mode) (connection : ConnectionId) : Attempt σ Bool := do
  Attempt.checkpoint mode
  connection.acquire mode

/-- Execute, up to the executed event. The command and its open are left to be released. -/
def execute (shape : Shape σ α) (s : Statement) (mode : Mode) (r : Request σ) :
    Attempt σ (Execution α) := do
  Attempt.ofResult (s.validate r.values)
  Attempt.checkpoint mode
  let info := r.info (← Attempt.lift Engine.newTicket) shape.method mode
  let logger ← Attempt.lift (Engine.raising Logger.raisesExecute r.logger)
  let c ← s.prepare mode r info
  if let .error failure ← (openFor mode r.connection).outcome then
    giveUp mode logger info c failure false
  match ← (run shape mode logger info c).outcome with
  | .ok output => return ⟨output, c, info⟩
  | .error failure => giveUp mode logger info c failure true

def executeOnce (shape : Shape σ α) (s : Statement) (mode : Mode)
    (r : Request σ) : Attempt σ α := do
  let execution ← s.execute shape mode r
  Attempt.ofOutcome (← Attempt.lift (execution.command.cleanUp mode r.connection))
  return execution.output

def executeNonQuery (s : Statement) (mode : Mode) (r : Request σ) : Attempt σ Int64 :=
  s.executeOnce .nonQuery mode r

/-- The first cell of the first row; nothing where there are no rows. -/
def executeScalar (s : Statement) (mode : Mode) (r : Request σ) : Attempt σ (Option Value) :=
  s.executeOnce .scalar mode r

/-- What a reader is made of. With declared columns the results are loaded into memory. -/
def openCursor (s : Statement) (mode : Mode) (r : Request σ) : Attempt σ (ReaderBinding σ) := do
  let ⟨cursor, c, info⟩ ← s.execute .reader mode r
  match r.columns with
  | none => return ⟨c, .native cursor, r.logger, info⟩
  | some columns =>
    match ← (cursor.load mode columns r.detailedErrors).outcome with
    | .ok buffer => return ⟨c, .buffered buffer, r.logger, info⟩
    | .error failure =>
      Attempt.lift do
        Engine.warn commandTarget "Failed to clean up command after a reader error"
          [connectionField r.connection] (← c.cleanUp mode r.connection)
      throw failure

/-- Create a native command without executing it. The identifier is there if an event needed it. -/
def createCommand (s : Statement) (method : Method) (r : Request σ) :
    Engine σ (Outcome NativeCommand × Option CommandId) := do
  let ticket ← Engine.newTicket
  let outcome ← (s.prepare .blocking r (r.info ticket method .blocking)).observe
  return (outcome, (← get).commandIds ticket)

end Statement

/-- A statement that is executed repeatedly, with the reader of its last reader execution. -/
structure Command (σ : Type) where
  statement : Statement
  reader : Option (DataReader σ) := none

namespace Command

def populate (s : Statement) (c : Command σ) : Command σ := { c with statement := s }

variable [Driver σ]

/-- Execute and bind the command's reader to the results. An execution that fails leaves the reader
as it was. -/
def executeReader (mode : Mode) (r : Request σ) (c : Command σ) :
    Engine σ (Outcome (DataReader σ) × Command σ) := do
  match ← (c.statement.openCursor mode r).observe with
  | .error failure => return (.error failure, c)
  | .ok binding =>
    let reader ← (c.reader.getD {}).rebind mode binding
    return (.ok reader, { c with reader := reader })

def drop (c : Command σ) : Engine σ Unit :=
  match c.reader with
  | none => pure ()
  | some r => r.drop

open Text

def inspect (c : Command σ) : Engine σ Message := do
  let reader ← c.reader.mapM DataReader.inspect
  return recordText "RelationalCommand" [field "command_text" (quoted c.statement.text),
    field "parameters" (listText (Parameter.inspectParts c.statement.parameters)),
    field "reader" (optionText reader)]

end Command

end SqlExecution
