import SqlExecution.Program
import SqlExecution.Scripted.Hooks

/-! The steps of scenarios. Connections, loggers, transactions and commands are spoken
of by name. -/

namespace SqlExecution.Scenario

structure NamedRequest where
  connection : String
  values : Option Parameter.Values := none
  columns : Option (List ReaderColumn) := none
  context : Option String := none
  /-- In place of the connection's logger: the named one, or none. -/
  logger : Option (Option String) := none
  detailedErrors : Option Bool := none
  source : Option CommandSource := none
  isNoted : Bool := false

inductive Inspected where
  | connection
  | logger
  | command
  | transaction
  | reader
  deriving DecidableEq, Repr

inductive Step where
  /-- Which trace records are kept from now on. -/
  | traceLimit (limit : Option TraceLevel)
  | cancel (reason : CancelReason)
  | resetContext
  | logger (name : String) (logger : Logger Script)
  /-- Ask which events a logger raises. -/
  | raised (logger : String)
  | connect (name : String) (settings : ScriptedConnection) (timeout : Option Nat)
      (logger : Option String) (reportsWrapping : Bool)
  | configure (connection : String) (change : ScriptedConnection → ScriptedConnection)
  | openNative (connection : String)
  | closeNative (connection : String)
  | openConnection (connection : String) (mode : Mode)
  | closeConnection (connection : String) (mode : Mode)
  | begin (name connection : String) (isolation : IsolationLevel) (mode : Mode)
  /-- Use the external transaction of a label, which the first mention begins. -/
  | adopt (name connection label : String) (isolation : IsolationLevel) (mode : Mode)
  | complete (transaction : String) (completion : Completion) (mode : Mode)
  | disposeTransaction (transaction : String) (mode : Mode)
  | dropTransaction (transaction : String)
  | declare (command : String) (statement : Statement)
  | build (command : String) (draft : Draft)
  | populate (command : String) (statement : Statement)
  | populateFrom (command other : String)
  | dropCommand (command : String)
  | validate (command : String) (values : Option Parameter.Values)
  | execute (method : Method) (command : String) (request : NamedRequest) (mode : Mode)
  | create (method : Method) (command : String) (request : NamedRequest)
  | read (command : String) (mode : Mode)
  | nextResult (command : String) (mode : Mode)
  | getValue (command : String) (ordinal : Nat)
  | isNull (command : String) (ordinal : Nat)
  | columnName (command : String) (ordinal : Nat)
  | drain (command : String)
  | disposeReader (command : String) (mode : Mode)
  | readerInfo (command : String)
  | newReader
  | inspect (what : Inspected) (name : String)

end SqlExecution.Scenario
