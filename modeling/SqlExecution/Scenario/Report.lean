import SqlExecution.Scenario.Play
import SqlExecution.Scenario.Sheet
import SqlExecution.Value.LogText

/-! The reports on scenarios and single operations: values by their log text, errors by their kind
and message, identifiers by their labels. -/

namespace SqlExecution

open Sheet (ofOption)

def Value.report (v : Value) : Json := .array [.string v.variant, .string v.logText]

namespace Error

def kindName : Error → String
  | .connection .opening .. => "Connection.Open"
  | .connection .closing .. => "Connection.Close"
  | .connection .broken .. => "Connection.Broken"
  | .command .database .. => "Command.Database"
  | .command .timeout .. => "Command.Timeout"
  | .command .cancelled .. => "Command.Cancelled"
  | .command .creation .. => "Command.Create"
  | .parameter .missing .. => "Parameter.Missing"
  | .parameter .mismatch .. => "Parameter.Mismatch"
  | .parameter .invalidName .. => "Parameter.InvalidName"
  | .parameter .duplicate .. => "Parameter.Duplicate"
  | .reader .closed _ => "Reader.Closed"
  | .reader .noRow _ => "Reader.NoRow"
  | .reader .ordinalOutOfRange _ => "Reader.OrdinalOutOfRange"
  | .reader .nullValue _ => "Reader.NullValue"
  | .reader .typeMismatch _ => "Reader.TypeMismatch"
  | .transaction .alreadyStarted .. => "Transaction.AlreadyStarted"
  | .transaction .completed .. => "Transaction.Completed"
  | .transaction .begin .. => "Transaction.Begin"
  | .transaction .commit .. => "Transaction.Commit"
  | .transaction .rollback .. => "Transaction.Rollback"
  | .custom _ => "Custom"

def reportMembers (e : Error) : List (String × Sheet) :=
  [("error", .string e.kindName), ("message", .message e.message)]
    ++ (match e with
      | .parameter _ p _ => [("parameter", .string p)]
      | .command _ _ (some sql) _ => [("sql", .string sql)]
      | _ => [])
    ++ (e.source.map fun s => ("source", Sheet.string s)).toList

def report (e : Error) : Sheet := .ofMembers e.reportMembers

def observedReport (e : Error) : Sheet :=
  .ofMembers (e.reportMembers ++ [("is_cancelled", .bool e.isCancelled)])

end Error

def Failure.report : Failure → Sheet
  | .error e => e.report
  | .cancelled r =>
    .ofMembers [("cancelled", .string r.kind.name), ("message", ofOption .string r.message)]
  | .panicked m => .ofMembers [("panicked", .string m)]

namespace Sheet

def success (sheet : Sheet) : Sheet := .ofMembers [("ok", sheet)]

def ofOutcome {α : Type} (write : α → Sheet) : Outcome α → Sheet
  | .ok a => success (write a)
  | .error f => f.report

def ofResult {α : Type} (write : α → Sheet) : Result α → Sheet
  | .ok a => success (write a)
  | .error e => e.report

def ofUnit (_ : Unit) : Sheet := .null

def ofValue (v : Value) : Sheet := v.report

end Sheet

def NativeParameter.report (p : NativeParameter) : Sheet :=
  .ofMembers [("name", .string p.name), ("value", .ofValue p.value),
    ("db_type", ofOption (fun t => .string t.name) p.dbType),
    ("direction", .string p.direction.name), ("nullable", .bool p.nullable),
    ("size", ofOption (fun n => .ofNat n.toNat) p.size)]

namespace NativeCommand

def reportMembers (c : NativeCommand) : List (String × Sheet) :=
  [("text", .string c.text), ("params", .array (c.parameters.map (·.report))),
    ("timeout_ms", ofOption .ofNat c.timeout),
    ("txn", ofOption (fun t => .string t.label) c.transaction),
    ("tag", ofOption .string c.tag)]

def report (c : NativeCommand) : Sheet := .ofMembers c.reportMembers

def briefMembers (c : NativeCommand) : List (String × Sheet) :=
  [("text", .string c.text), ("params", .ofNat c.parameters.length), ("tag", ofOption .string c.tag)]

end NativeCommand

namespace Statement

def report (s : Statement) : Sheet :=
  .ofMembers [("text", .string s.text), ("params", .ofNat s.parameters.length)]

def namesReport (s : Statement) : Sheet :=
  .ofMembers [("text", .string s.text),
    ("params", .array (s.parameters.map fun p => .string p.invariant))]

end Statement

def Mode.reportMember (mode : Mode) : String × Sheet := ("async", .bool mode.isAsync)

namespace NativeCall

def executionName : Method → String
  | .nonQuery => "execute_non_query"
  | .scalar => "execute_scalar"
  | .reader => "execute_reader"

def named (name : String) (members : List (String × Sheet)) : Option Sheet :=
  some (.ofMembers (("native", .string name) :: members))

/-- Reading from a cursor and clearing parameters are not reported. -/
def report? : NativeCall → Option Sheet
  | openConnection _ mode => named "open" [mode.reportMember]
  | closeConnection _ mode => named "close" [mode.reportMember]
  | createCommand _ => named "create_command" []
  | begin _ mode isolation => named "begin" [mode.reportMember, ("isolation", .string isolation.name)]
  | commit t mode => named "commit" [mode.reportMember, ("txn", .string t.label)]
  | rollback t mode => named "rollback" [mode.reportMember, ("txn", .string t.label)]
  | execute method c mode => named (executionName method) (mode.reportMember :: c.reportMembers)
  | dispose c _ =>
    named "dispose" [("params", .ofNat c.parameters.length), ("tag", ofOption .string c.tag)]
  | closeCursor _ mode => named "reader_close" [mode.reportMember]
  | _ => none

end NativeCall

def Hook.name : Hook → String
  | commandCreating => "command_creating"
  | commandCreated => "command_created"
  | executing .nonQuery => "non_query_executing"
  | executing .scalar => "scalar_executing"
  | executing .reader => "reader_executing"
  | executed .nonQuery => "non_query_executed"
  | executed .scalar => "scalar_executed"
  | executed .reader => "reader_executed"
  | commandFailed => "command_failed"
  | readerDisposing => "data_reader_disposing"
  | transactionStarting => "transaction_starting"
  | transactionStarted => "transaction_started"

def Payload.report : Payload → Sheet
  | command c => ofOption .string c.tag
  | rows n => .ofInt64 n
  | scalar v => ofOption .ofValue v
  | cursor _ fields => .ofNat fields
  | transaction t => .string t.label
  | error e => e.observedReport
  | disposal d =>
    .ofMembers [("records_affected", .ofInt64 d.recordsAffected), ("read_count", .ofNat d.readCount)]

def HookInput.report : HookInput → Sheet
  | nothing => .null
  | offered .noResult => .string "NoResult"
  | offered (.hasResult p) => .ofMembers [("HasResult", p.report)]
  | given p => p.report

def Subject.reportMembers : Subject → List (String × Sheet)
  | command e c =>
    [("cmd", .message e.commandId), ("conn", .message e.connection),
      ("method", .string e.method.verb), ("source", .string e.source.name),
      ("is_async", .bool e.isAsync), ("context", ofOption .string e.context)]
    ++ (c.map NativeCommand.briefMembers).getD []
  | transaction e =>
    [("txn", .message e.transactionId), ("conn", .message e.connection),
      ("isolation", .string e.isolation.name), ("is_async", .bool e.isAsync), ("context", .null)]

/-- A delivery to an interceptor without hooks of its own is not reported. -/
def Delivery.report? (d : Delivery) : Option Sheet :=
  if d.coverage = .none then none
  else some <| .ofMembers <|
    [("hook", .string (d.interceptor ++ "." ++ d.hook.name)),
      ("async", .bool (d.mode.isAsync && d.coverage = .both)), ("in", d.input.report)]
    ++ d.subject.reportMembers

def TraceValue.report : TraceValue → Sheet
  | text m => .message m
  | int n => .ofInt n
  | bool b => .bool b

def TraceRecord.report (t : TraceRecord) : Sheet :=
  .ofMembers [("trace", .string t.level.name), ("target", .string t.target),
    ("msg", .string (Text.withoutDuration t.message)),
    ("fields", .ofMembers (t.fields.map fun f => (f.1, f.2.report)))]

def Wrapping.report (w : Wrapping) : Sheet :=
  .ofMembers [("factory", .string "create"), ("txn", .message w.transactionId),
    ("native", .string w.native.label), ("logger", .bool w.hasLogger), ("owned", .bool w.owned)]

namespace Entry

def report? : Entry → Option Sheet
  | native call => call.report?
  | hook d => d.report?
  | trace t => some t.report
  | wrapped w => some w.report
  | request text => some (.ofMembers [("request", .message text)])

def reports (journal : List Entry) : Sheet := .array (journal.filterMap report?)

end Entry

def Transaction.report {σ : Type} (t : Transaction σ) : Sheet :=
  .ofMembers [("txn", .message t.id), ("owned", .bool t.owned), ("native", .string t.native.label),
    ("isolation", .string t.native.isolation.name), ("conn", .message t.connection),
    ("logger", .bool t.logger.isSome)]

def rowsReport (rows : List (List Value)) : Sheet :=
  .array (rows.map fun row => .array (row.map .ofValue))

def Answer.report {σ : Type} : Answer σ → Sheet
  | nothing => .null
  | done o => .ofOutcome .ofUnit o
  | flag o => .ofOutcome .bool o
  | affected o => .ofOutcome .ofInt64 o
  | scalar o => .ofOutcome (ofOption .ofValue) o
  | value o => .ofOutcome .ofValue o
  | name o => .ofOutcome .string o
  | begun o => .ofOutcome Transaction.report o
  | bound o => .ofOutcome (fun r => .bool r.isBuffered) o
  | created o id =>
    .array [.ofOutcome NativeCommand.report o, ofOption (fun i : CommandId => .message i) id]
  | drained r => .ofResult (fun sets => .array (sets.map rowsReport)) r
  | noTransaction => .string "no txn"
  | noCommand => .null
  | noReader => .string "no reader"

namespace Scenario

def ReaderInfo.report (i : ReaderInfo) : Sheet :=
  .ofMembers [("fields", .ofNat i.fields), ("records_affected", .ofInt64 i.recordsAffected),
    ("read_count", .ofNat i.readCount), ("buffered", .bool i.isBuffered),
    ("minted", .bool i.commandId.isSome),
    ("cmd", ofOption (fun c : CommandId => .message c) i.commandId),
    ("conn", ofOption (fun c : ConnectionId => .message c) i.connection),
    ("command", ofOption NativeCommand.report i.command)]

def Reply.report : Reply → Sheet
  | nothing => .null
  | operation a => a.report
  | raised create execute transaction => .array [.bool create, .bool execute, .bool transaction]
  | connected timeout hasLogger =>
    .ofMembers [("timeout_ms", ofOption .ofNat timeout), ("logger", .bool hasLogger)]
  | declared s => s.report
  | built r => .ofResult Statement.report r
  | populated s => s.namesReport
  | reader i => i.report
  | text m => .message m
  | finished => .string "end"

def ConnectionView.report (c : ConnectionView) : Sheet :=
  .ofMembers [("open", .bool c.isOpen), ("count", .ofNat c.openCount),
    ("txn", ofOption (fun a : Ambient => .message a.id) c.ambient),
    ("native", ofOption (fun a => .string a.native.label) c.ambient)]

def View.report (v : View) : Sheet :=
  .ofMembers [("conns", .ofMembers (v.connections.map fun c => (c.1, c.2.report))),
    ("txns", .ofMembers (v.transactions.map fun t => (t.1, .string t.2.name))),
    ("readers", .ofMembers (v.readers.map fun r => (r.1, .string r.2)))]

/-- The members of an object are labelled in the order of their names: what happened, the reply, and
what can be seen afterwards. -/
def Report.sheet (r : Report) : Sheet :=
  .ofMembers [("r", r.reply.report), ("log", Entry.reports r.journal), ("st", r.view.report)]

/-- Play a scenario and report on it; there is no report when something unknown is named. -/
def reports? (steps : List Step) : Option Json := do
  let (reports, stage) ← play steps {}
  some ((Sheet.array (reports.map Report.sheet)).written stage.names)

end Scenario

end SqlExecution
