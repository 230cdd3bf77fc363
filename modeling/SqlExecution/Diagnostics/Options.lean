import SqlExecution.Json.Decode
import SqlExecution.Json.Printer
import SqlExecution.Outcome

/-! Diagnostics options: which command events are raised and how much they reveal. -/

namespace SqlExecution

structure DiagnosticsOptions where
  createEvents : Bool := true
  executeEvents : Bool := true
  sensitiveData : Bool := false
  /-- Name the offending column in the errors of buffered readers. -/
  detailedErrors : Bool := false
  deriving DecidableEq, Repr

namespace DiagnosticsOptions

open Json

def fieldNames : List String :=
  ["command_create_events", "command_execute_events", "sensitive_data_logging", "detailed_errors"]

def flags (o : DiagnosticsOptions) : List Bool :=
  [o.createEvents, o.executeEvents, o.sensitiveData, o.detailedErrors]

def toDocument (o : DiagnosticsOptions) : Document :=
  .ofMembers (fieldNames.zip (o.flags.map .bool))

/-- Every field may be left out, and an array may be short. -/
def decoder : Decoder DiagnosticsOptions := fun room doc => do
  let default : DiagnosticsOptions := {}
  match ← Decoder.record fieldNames true room doc with
  | (room, [create, execute, sensitive, detailed]) =>
    some ⟨← Decoder.orElse .bool default.createEvents room create,
      ← Decoder.orElse .bool default.executeEvents room execute,
      ← Decoder.orElse .bool default.sensitiveData room sensitive,
      ← Decoder.orElse .bool default.detailedErrors room detailed⟩
  | _ => none

def invalid : String := "invalid diagnostics options: "

def readJson (text : String) : Result DiagnosticsOptions :=
  match decoder.run text with
  | some o => .ok o
  | none => .error (.custom (invalid ++ "the text is not an options document"))

open Text

def inspect (o : DiagnosticsOptions) : String :=
  recordText "DiagnosticsOptions"
    ((fieldNames.zip o.flags).map fun f => field f.1 (boolText f.2))

end DiagnosticsOptions

end SqlExecution
