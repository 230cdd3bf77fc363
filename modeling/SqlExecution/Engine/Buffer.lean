import SqlExecution.Engine.Hooks
import SqlExecution.ResultSet

/-! Buffered readers: result sets held in memory. The first set is read through declared columns and
checked against them, every other set as it is. -/

namespace SqlExecution

variable {σ α : Type}

open Trace

structure ReaderColumn where
  name : Option String
  nullable : Bool
  dbType : Option DbType
  deriving DecidableEq, Repr

def ReaderColumn.inspect (c : ReaderColumn) : String :=
  Text.recordText "ReaderColumn" [
    Text.field "name" (Text.optionText (c.name.map Text.quoted)),
    Text.field "nullable" (Text.boolText c.nullable), Text.field "db_type" (dbTypeText c.dbType)]

structure BufferedReader where
  walk : Walk
  recordsAffected : Int64
  detailedErrors : Bool
  closed : Bool := false

namespace BufferedReader

def closedError : Error := .reader .closed "The data reader is closed."

def noRowError : Error := .reader .noRow "No data exists for the row."

def ordinalError (ordinal : Nat) : Error :=
  .reader .ordinalOutOfRange ("Ordinal " ++ Value.intText ordinal ++ " is out of range.")

def columnName (ordinal : Nat) (b : BufferedReader) : Result String :=
  match b.walk.current.columns[ordinal]? with
  | some name => .ok name
  | none => .error (ordinalError ordinal)

def move (step : Walk → Bool × Walk) (b : BufferedReader) : Result Bool × BufferedReader :=
  if b.closed then (.error closedError, b)
  else let (found, walk) := step b.walk; (.ok found, { b with walk := walk })

/-- Go to the next row; past the last row it stays there. -/
def read (b : BufferedReader) : Result Bool × BufferedReader := b.move Walk.read

def nextResult (b : BufferedReader) : Result Bool × BufferedReader := b.move Walk.nextResult

def getValue (ordinal : Nat) (b : BufferedReader) : Result Value :=
  if b.closed then .error closedError
  else match b.walk.row? with
    | none => .error noRowError
    | some row => match row[ordinal]? with
      | some v => .ok v
      | none => .error (ordinalError ordinal)

def isNull (ordinal : Nat) (b : BufferedReader) : Result Bool :=
  (b.getValue ordinal).map Value.isNull

def close (b : BufferedReader) : BufferedReader := { b with closed := true }

end BufferedReader

namespace ReaderColumn

def missingError (name : String) : Error :=
  .reader .ordinalOutOfRange ("The result set does not contain a column named '" ++ name ++ "'.")

def surplusError (columns fields : Nat) : Error :=
  .reader .ordinalOutOfRange
    (Value.intText columns ++ " columns were declared but the result set has "
      ++ Value.intText fields ++ ".")

def detailedText (name : String) (ordinal : Nat) : String :=
  "An error occurred while reading a database value for column '" ++ name ++ "' (ordinal "
    ++ Value.intText ordinal ++ "). "

def nullError (detailed : Bool) (name : String) (ordinal : Nat) : Error :=
  .reader .nullValue
    (if detailed then
      detailedText name ordinal ++ "The column is not nullable but the value was NULL."
    else "Data is Null. This method or property cannot be called on Null values.")

def typeName (t : Option DbType) : String := (t.map DbType.name).getD "unknown"

def typeError (detailed : Bool) (name : String) (ordinal : Nat) (expected : DbType)
    (actual : Option DbType) : Error :=
  .reader .typeMismatch
    (if detailed then
      detailedText name ordinal ++ "The expected type was '" ++ expected.name
        ++ "' but the actual value was of type '" ++ typeName actual ++ "'."
    else
      "Unable to cast a value of type '" ++ typeName actual ++ "' to type '" ++ expected.name ++ "'.")

/-- Whether a cell is what the column declares; any value is an object. -/
def check (detailed : Bool) (column : ReaderColumn) (name : String) (ordinal : Nat) (v : Value) :
    Result Unit :=
  if v.isNull then
    if column.nullable then .ok () else .error (nullError detailed name ordinal)
  else match column.dbType with
    | none => .ok ()
    | some expected =>
      if expected = .object ∨ v.dbType = some expected then .ok ()
      else .error (typeError detailed name ordinal expected v.dbType)

end ReaderColumn

namespace Cursor

variable [Driver σ]

def fieldCount (c : Cursor) : Engine σ Nat := return Driver.fieldCount c (← get).scene.state

def recordsAffected (c : Cursor) : Engine σ Int64 :=
  return Driver.recordsAffected c (← get).scene.state

/-- How often reading and moving on can still succeed. -/
def remaining (c : Cursor) : Engine σ Nat := return Driver.remaining c (← get).scene.state

def columnName (c : Cursor) (ordinal : Nat) : Engine σ (Result String) :=
  Engine.call (.columnName c ordinal) (Driver.columnName c ordinal)

def getValue (c : Cursor) (ordinal : Nat) : Engine σ (Result Value) :=
  Engine.call (.getValue c ordinal) (Driver.getValue c ordinal)

def read (mode : Mode) (c : Cursor) : Attempt σ Bool :=
  Attempt.call (.read c mode) mode (Driver.read c)

def nextResult (mode : Mode) (c : Cursor) : Attempt σ Bool :=
  Attempt.call (.nextResult c mode) mode (Driver.nextResult c)

def close (mode : Mode) (c : Cursor) : Attempt σ Unit :=
  Attempt.call (.closeCursor c mode) mode (Driver.closeCursor c)

/-- A cursor that goes on longer than its driver announced. -/
def endlessError : Error := .reader .closed "The cursor holds more than its driver announced."

/-- Repeat a step as long as it moves on, at most the given number of times. -/
def gather (step : Attempt σ (Option α)) : Nat → Attempt σ (List α)
  | 0 => throw (.error endlessError)
  | n + 1 => do
    match ← step with
    | none => return []
    | some a => return a :: (← gather step n)

/-- The first ordinal with a column name; an ordinal whose name cannot be had does not match. -/
def findColumn (c : Cursor) (name : String) : List Nat → Engine σ (Option Nat)
  | [] => return none
  | ordinal :: rest => do
    match ← c.columnName ordinal with
    | .ok n => if n = name then return some ordinal else findColumn c name rest
    | .error _ => findColumn c name rest

def resolve (c : Cursor) (total fields : Nat) : Nat → List ReaderColumn → Attempt σ (List Nat)
  | _, [] => return []
  | place, column :: rest => do
    let ordinal ← match column.name with
      | some name =>
        match ← Attempt.lift (c.findColumn name (List.range fields)) with
        | some ordinal => pure ordinal
        | none => throw (.error (ReaderColumn.missingError name))
      | none =>
        if place < fields then pure place
        else throw (.error (ReaderColumn.surplusError total fields))
    return ordinal :: (← resolve c total fields (place + 1) rest)

abbrev Resolved := ReaderColumn × Nat × String

def nameColumns (c : Cursor) : List (ReaderColumn × Nat) → Attempt σ (List Resolved)
  | [] => return []
  | (column, ordinal) :: rest => do
    let name ← match column.name with
      | some name => pure name
      | none => Attempt.callPlain (.columnName c ordinal) (Driver.columnName c ordinal)
    return (column, ordinal, name) :: (← nameColumns c rest)

/-- One row through declared columns; every cell is checked as soon as it is read. -/
def checkedRow (c : Cursor) (detailed : Bool) : List Resolved → Attempt σ (List Value)
  | [] => return []
  | (column, ordinal, name) :: rest => do
    let v ← Attempt.callPlain (.getValue c ordinal) (Driver.getValue c ordinal)
    Attempt.ofResult (column.check detailed name ordinal v)
    return v :: (← checkedRow c detailed rest)

def plainRow (c : Cursor) : List Nat → Attempt σ (List Value)
  | [] => return []
  | ordinal :: rest => do
    let v ← Attempt.callPlain (.getValue c ordinal) (Driver.getValue c ordinal)
    return v :: (← plainRow c rest)

def plainNames (c : Cursor) : List Nat → Attempt σ (List String)
  | [] => return []
  | ordinal :: rest => do
    let name ← Attempt.callPlain (.columnName c ordinal) (Driver.columnName c ordinal)
    return name :: (← plainNames c rest)

def rows (c : Cursor) (mode : Mode) (row : Attempt σ (List Value)) :
    Attempt σ (List (List Value)) := do
  let bound ← Attempt.lift c.remaining
  gather (do if ← c.read mode then return some (← row) else return none) (bound + 1)

def firstSet (c : Cursor) (mode : Mode) (columns : List ReaderColumn) (detailed : Bool) :
    Attempt σ ResultSet := do
  let fields ← Attempt.lift c.fieldCount
  let ordinals ← c.resolve columns.length fields 0 columns
  let resolved ← c.nameColumns (columns.zip ordinals)
  return ⟨resolved.map (·.2.2), ← c.rows mode (c.checkedRow detailed resolved)⟩

def laterSet (c : Cursor) (mode : Mode) : Attempt σ (Option ResultSet) := do
  if ← c.nextResult mode then
    Attempt.checkpoint mode
    let ordinals := List.range (← Attempt.lift c.fieldCount)
    let names ← c.plainNames ordinals
    return some ⟨names, ← c.rows mode (c.plainRow ordinals)⟩
  else return none

def drain (c : Cursor) (mode : Mode) (columns : List ReaderColumn) (detailed : Bool) :
    Attempt σ (List ResultSet) := do
  let first ← c.firstSet mode columns detailed
  let bound ← Attempt.lift c.remaining
  let later ← gather (c.laterSet mode) (bound + 1)
  let sets := first :: later
  Attempt.trace .debug readerTarget "Buffered data reader"
    [("result_sets", .int sets.length), ("rows", .int (ResultSet.totalRows sets))]
  return sets

/-- Drain a cursor into memory and close it, whether or not draining succeeded. -/
def load (c : Cursor) (mode : Mode) (columns : List ReaderColumn) (detailed : Bool) :
    Attempt σ BufferedReader := do
  let loaded ← (c.drain mode columns detailed).outcome
  let recordsAffected ← Attempt.lift c.recordsAffected
  let closed ← (c.close mode).outcome
  let sets ← Attempt.ofOutcome loaded
  Attempt.ofOutcome closed
  return { walk := { sets }, recordsAffected, detailedErrors := detailed }

end Cursor

end SqlExecution
