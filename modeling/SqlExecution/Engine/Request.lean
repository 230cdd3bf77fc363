import SqlExecution.Engine.Reader
import SqlExecution.Statement

/-! What one execution is given besides the command itself. -/

namespace SqlExecution

variable {σ : Type}

/-- Only the connection is required; the logger and the detail of errors are by default those of the
connection. -/
structure Request (σ : Type) where
  connection : ConnectionId
  values : Option Parameter.Values := none
  /-- The declared columns of the first result set; with them, results are buffered. -/
  columns : Option (List ReaderColumn) := none
  /-- Who issues the command, for correlation only. -/
  context : Option String := none
  logger : Option (Logger σ)
  detailedErrors : Bool
  source : CommandSource := .unknown

namespace Request

def of (connection : ConnectionId) : Engine σ (Request σ) := do
  let logger := (← Engine.connection connection).logger
  return { connection, logger, detailedErrors := logger.any (·.options.detailedErrors) }

def info (r : Request σ) (ticket : Ticket) (method : Method) (mode : Mode) : ExecutionInfo :=
  ⟨ticket, r.context, r.connection, method, r.source, mode⟩

open Text

def inspect (r : Request σ) : Message :=
  recordText "CommandParameterObject" [
    field "connection_id" (applied "ConnectionId" r.connection),
    field "parameter_values"
      (optionText (r.values.map fun vs => mapText (vs.map fun v => (quoted v.1, v.2.inspect)))),
    field "reader_columns"
      (optionText (r.columns.map fun cs => listText (cs.map ReaderColumn.inspect))),
    field "context" (optionText (r.context.map fun name =>
      recordText "ContextInfo" [field "name" (quoted name)])),
    field "has_logger" (boolText r.logger.isSome),
    field "detailed_errors_enabled" (boolText r.detailedErrors),
    field "command_source" r.source.name]

end Request

end SqlExecution
