/-! Type tags for values and parameters, and the store types that parameters are mapped to. -/

namespace SqlExecution

inductive DbType where
  | boolean
  | sByte
  | int16
  | int32
  | int64
  | uInt64
  | single
  | double
  | decimal
  | string
  | binary
  | date
  | dateTime
  | dateTimeOffset
  | guid
  | json
  | object
  deriving DecidableEq, Repr

namespace DbType

def name : DbType → String
  | boolean => "Boolean"
  | sByte => "SByte"
  | int16 => "Int16"
  | int32 => "Int32"
  | int64 => "Int64"
  | uInt64 => "UInt64"
  | single => "Single"
  | double => "Double"
  | decimal => "Decimal"
  | string => "String"
  | binary => "Binary"
  | date => "Date"
  | dateTime => "DateTime"
  | dateTimeOffset => "DateTimeOffset"
  | guid => "Guid"
  | json => "Json"
  | object => "Object"

def all : List DbType :=
  [boolean, sByte, int16, int32, int64, uInt64, single, double, decimal, string, binary, date,
    dateTime, dateTimeOffset, guid, json, object]

def ofName? (s : String) : Option DbType := all.find? (·.name == s)

theorem ofName?_name (t : DbType) : ofName? t.name = some t := by cases t <;> decide

end DbType

inductive Direction where
  | input
  | output
  | inputOutput
  | returnValue
  deriving DecidableEq, Repr

namespace Direction

def name : Direction → String
  | input => "Input"
  | output => "Output"
  | inputOutput => "InputOutput"
  | returnValue => "ReturnValue"

def all : List Direction := [input, output, inputOutput, returnValue]

def ofName? (s : String) : Option Direction := all.find? (·.name == s)

theorem ofName?_name (d : Direction) : ofName? d.name = some d := by cases d <;> decide

end Direction

/-- The isolation asked for when a transaction begins; unspecified leaves it to the driver. -/
inductive IsolationLevel where
  | unspecified
  | readUncommitted
  | readCommitted
  | repeatableRead
  | serializable
  | snapshot
  deriving DecidableEq, Repr

namespace IsolationLevel

def name : IsolationLevel → String
  | unspecified => "Unspecified"
  | readUncommitted => "ReadUncommitted"
  | readCommitted => "ReadCommitted"
  | repeatableRead => "RepeatableRead"
  | serializable => "Serializable"
  | snapshot => "Snapshot"

def all : List IsolationLevel :=
  [unspecified, readUncommitted, readCommitted, repeatableRead, serializable, snapshot]

def ofName? (s : String) : Option IsolationLevel := all.find? (·.name == s)

end IsolationLevel

structure TypeMapping where
  storeType : String
  dbType : Option DbType
  size : Option UInt32
  deriving DecidableEq, Repr

namespace TypeMapping

def of (storeType : String) (dbType : Option DbType) : TypeMapping := ⟨storeType, dbType, none⟩

def int (storeType : String) : TypeMapping := of storeType (some .int32)

def uLong (storeType : String) : TypeMapping := of storeType (some .uInt64)

def dateTimeOffset (storeType : String) : TypeMapping := of storeType (some .dateTimeOffset)

def string (storeType : String) (size : Option UInt32) : TypeMapping :=
  ⟨storeType, some .string, size⟩

def withSize (m : TypeMapping) (size : UInt32) : TypeMapping := { m with size := some size }

end TypeMapping

end SqlExecution
