import SqlExecution.Native.Basic
import SqlExecution.Outcome
import SqlExecution.Diagnostics.Interception

/-! Events, and the journal of everything that happens around the engine: calls to the driver,
deliveries to interceptors, trace records. -/

namespace SqlExecution

structure CommandEvent where
  context : Option String
  connection : ConnectionId
  commandId : CommandId
  method : Method
  source : CommandSource
  isAsync : Bool
  deriving DecidableEq, Repr

structure TransactionEvent where
  connection : ConnectionId
  transactionId : TransactionId
  isolation : IsolationLevel
  isAsync : Bool
  deriving DecidableEq, Repr

structure Disposal where
  recordsAffected : Int64
  readCount : Nat
  deriving DecidableEq, Repr

inductive Hook where
  | commandCreating
  | commandCreated
  | executing (method : Method)
  | executed (method : Method)
  | commandFailed
  | readerDisposing
  | transactionStarting
  | transactionStarted
  deriving DecidableEq, Repr

/-- Which forms of its hooks an interceptor defines: none, so that every hook passes through, only
the blocking ones, which then also serve asynchronous calls, or both. -/
inductive Coverage where
  | none
  | blockingOnly
  | both
  deriving DecidableEq, Repr

inductive Payload where
  | command (c : NativeCommand)
  | rows (n : Int64)
  | scalar (v : Option Value)
  | cursor (c : Cursor) (fields : Nat)
  | transaction (t : NativeTransaction)
  | error (e : Error)
  | disposal (d : Disposal)

inductive HookInput where
  | nothing
  | offered (i : Interception Payload)
  | given (p : Payload)

inductive Subject where
  | command (event : CommandEvent) (command : Option NativeCommand)
  | transaction (event : TransactionEvent)

structure Delivery where
  interceptor : String
  coverage : Coverage
  hook : Hook
  mode : Mode
  subject : Subject
  input : HookInput

inductive NativeCall where
  | openConnection (connection : ConnectionId) (mode : Mode)
  | closeConnection (connection : ConnectionId) (mode : Mode)
  | createCommand (connection : ConnectionId)
  | begin (connection : ConnectionId) (mode : Mode) (isolation : IsolationLevel)
  | commit (transaction : NativeTransaction) (mode : Mode)
  | rollback (transaction : NativeTransaction) (mode : Mode)
  | execute (method : Method) (command : NativeCommand) (mode : Mode)
  | clearParameters (command : NativeCommand)
  | dispose (command : NativeCommand) (mode : Mode)
  | columnName (cursor : Cursor) (ordinal : Nat)
  | read (cursor : Cursor) (mode : Mode)
  | nextResult (cursor : Cursor) (mode : Mode)
  | getValue (cursor : Cursor) (ordinal : Nat)
  | closeCursor (cursor : Cursor) (mode : Mode)

inductive TraceLevel where
  | error
  | warn
  | info
  | debug
  | trace
  deriving DecidableEq, Repr

namespace TraceLevel

def rank : TraceLevel → Nat
  | error => 0
  | warn => 1
  | info => 2
  | debug => 3
  | trace => 4

def name : TraceLevel → String
  | error => "ERROR"
  | warn => "WARN"
  | info => "INFO"
  | debug => "DEBUG"
  | trace => "TRACE"

def all : List TraceLevel := [error, warn, info, debug, trace]

def ofName? (s : String) : Option TraceLevel := all.find? (·.name == s)

/-- Whether records of a level are kept under a limit; without a limit none are. -/
def isKept (level : TraceLevel) : Option TraceLevel → Bool
  | none => false
  | some limit => decide (level.rank ≤ limit.rank)

end TraceLevel

inductive TraceValue where
  | text (m : Message)
  | int (n : Int)
  | bool (b : Bool)
  deriving DecidableEq, Repr

structure TraceRecord where
  level : TraceLevel
  target : String
  message : String
  fields : List (String × TraceValue)
  deriving DecidableEq, Repr

/-- The wrapping of a native transaction, as a connection's own factory reports it. -/
structure Wrapping where
  transactionId : TransactionId
  native : NativeTransaction
  hasLogger : Bool
  owned : Bool

inductive Entry where
  | native (call : NativeCall)
  | hook (delivery : Delivery)
  | trace (record : TraceRecord)
  | wrapped (w : Wrapping)
  | request (text : Message)

end SqlExecution
