import SqlExecution.Identifier
import SqlExecution.Parameter.Native

/-! What a driver hands out: native transactions, commands and cursors. Each belongs to a native
connection and is told apart by a number or label of the driver's. -/

namespace SqlExecution

structure NativeTransaction where
  connection : ConnectionId
  label : String
  isolation : IsolationLevel
  deriving DecidableEq, Repr

structure NativeCommand where
  connection : ConnectionId
  handle : Nat
  text : String
  transaction : Option NativeTransaction
  /-- In milliseconds. -/
  timeout : Option Nat
  parameters : List NativeParameter
  /-- A mark that drivers and interceptors may leave. -/
  tag : Option String

namespace NativeCommand

def blank (connection : ConnectionId) (handle : Nat) : NativeCommand :=
  ⟨connection, handle, "", none, none, [], none⟩

def clear (c : NativeCommand) : NativeCommand := { c with parameters := [] }

end NativeCommand

structure Cursor where
  connection : ConnectionId
  handle : Nat
  deriving DecidableEq, Repr

inductive Method where
  | nonQuery
  | scalar
  | reader
  deriving DecidableEq, Repr

namespace Method

def name : Method → String
  | nonQuery => "NonQuery"
  | scalar => "Scalar"
  | reader => "Reader"

def all : List Method := [nonQuery, scalar, reader]

def ofName? (s : String) : Option Method := all.find? (·.name == s)

def verb : Method → String
  | nonQuery => "ExecuteNonQuery"
  | scalar => "ExecuteScalar"
  | reader => "ExecuteReader"

end Method

inductive CommandSource where
  | unknown
  | query
  | saveChanges
  | migrations
  | rawQuery
  | executeSql
  | valueGenerator
  | scaffolding
  | bulkUpdate
  deriving DecidableEq, Repr

namespace CommandSource

def name : CommandSource → String
  | unknown => "Unknown"
  | query => "Query"
  | saveChanges => "SaveChanges"
  | migrations => "Migrations"
  | rawQuery => "RawQuery"
  | executeSql => "ExecuteSql"
  | valueGenerator => "ValueGenerator"
  | scaffolding => "Scaffolding"
  | bulkUpdate => "BulkUpdate"

def all : List CommandSource :=
  [unknown, query, saveChanges, migrations, rawQuery, executeSql, valueGenerator, scaffolding,
    bulkUpdate]

def ofName? (s : String) : Option CommandSource := all.find? (·.name == s)

end CommandSource

end SqlExecution
