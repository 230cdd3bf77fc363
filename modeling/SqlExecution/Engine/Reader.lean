import SqlExecution.Engine.Buffer
import SqlExecution.Engine.Connection

/-! Data readers. An open reader holds a cursor, the native command that produced it and one open on
the connection, and releases them in that order. -/

namespace SqlExecution

variable {σ : Type}

open Trace

/-- The cursor behind a reader: the driver's own, or a copy in memory. -/
inductive DataCursor where
  | native (c : Cursor)
  | buffered (b : BufferedReader)

def NativeCommand.discard [Driver σ] (mode : Mode) (c : NativeCommand) : Engine σ (Outcome Unit) := do
  Engine.record (.native (.clearParameters c))
  (Attempt.call (.dispose c.clear mode) mode (Driver.dispose c.clear)).observe

/-- Release a command and the open it was executed under. Both steps run; the
first failure counts. -/
def NativeCommand.cleanUp [Driver σ] (mode : Mode) (connection : ConnectionId) (c : NativeCommand) :
    Engine σ (Outcome Unit) := do
  let disposed ← c.discard mode
  let closed ← connection.releaseOutcome mode
  return disposed.andThen closed

structure ReaderBinding (σ : Type) where
  command : NativeCommand
  cursor : DataCursor
  logger : Option (Logger σ)
  info : ExecutionInfo

inductive ReaderPhase (σ : Type) where
  | uninitialized
  | bound (b : ReaderBinding σ)
  | disposed

namespace ReaderPhase

def name : ReaderPhase σ → String
  | uninitialized => "Uninitialized"
  | bound _ => "Open"
  | disposed => "Disposed"

def binding? : ReaderPhase σ → Option (ReaderBinding σ)
  | bound b => some b
  | _ => none

end ReaderPhase

structure DataReader (σ : Type) where
  phase : ReaderPhase σ := .uninitialized
  /-- The ticket of the execution that the reader is of, if there was one. -/
  ticket : Option Ticket := none
  readCount : Nat := 0

namespace DataReader

def notOpen (r : DataReader σ) : Error :=
  .reader .closed ("The data reader is not open (" ++ r.phase.name ++ ").")

def cursor? (r : DataReader σ) : Option DataCursor := r.phase.binding?.map (·.cursor)

def isBuffered (r : DataReader σ) : Bool :=
  match r.cursor? with
  | some (.buffered _) => true
  | _ => false

def withBuffer (r : DataReader σ) (b : BufferedReader) : DataReader σ :=
  match r.phase with
  | .bound binding => { r with phase := .bound { binding with cursor := .buffered b } }
  | _ => r

def counted (r : DataReader σ) : Outcome Bool → DataReader σ
  | .ok true => { r with readCount := r.readCount + 1 }
  | _ => r

/-- The reader after it let go of its binding. -/
def retired (r : DataReader σ) : DataReader σ :=
  match r.phase with
  | .bound _ => { r with phase := .disposed }
  | _ => r

def ofBinding (b : ReaderBinding σ) : DataReader σ := ⟨.bound b, some b.info.ticket, 0⟩

variable [Driver σ]

def fieldCount (r : DataReader σ) : Engine σ Nat :=
  match r.cursor? with
  | none => return 0
  | some (.native c) => c.fieldCount
  | some (.buffered b) => return b.walk.fieldCount

def recordsAffected (r : DataReader σ) : Engine σ Int64 :=
  match r.cursor? with
  | none => return -1
  | some (.native c) => c.recordsAffected
  | some (.buffered b) => return b.recordsAffected

def columnName (ordinal : Nat) (r : DataReader σ) : Engine σ (Result String) :=
  match r.cursor? with
  | none => return .error r.notOpen
  | some (.native c) => c.columnName ordinal
  | some (.buffered b) => return b.columnName ordinal

def getValue (ordinal : Nat) (r : DataReader σ) : Engine σ (Result Value) :=
  match r.cursor? with
  | none => return .error r.notOpen
  | some (.native c) => c.getValue ordinal
  | some (.buffered b) => return b.getValue ordinal

def isNull (ordinal : Nat) (r : DataReader σ) : Engine σ (Result Bool) := do
  return (← r.getValue ordinal).map Value.isNull

/-- Go to the next row; rows that are there are counted. -/
def read (mode : Mode) (r : DataReader σ) : Engine σ (Outcome Bool × DataReader σ) :=
  match r.cursor? with
  | none => return (.error (.error r.notOpen), r)
  | some (.native c) => do
    let outcome ← (c.read mode).observe
    return (outcome, r.counted outcome)
  | some (.buffered b) =>
    let (result, b) := b.read
    return (.ofResult result, (r.withBuffer b).counted (.ofResult result))

def nextResult (mode : Mode) (r : DataReader σ) : Engine σ (Outcome Bool × DataReader σ) :=
  match r.cursor? with
  | none => return (.error (.error r.notOpen), r)
  | some (.native c) => do
    let outcome ← (c.nextResult mode).observe
    return (outcome, r)
  | some (.buffered b) =>
    let (result, b) := b.nextResult
    return (.ofResult result, r.withBuffer b)

def announce (mode : Mode) (r : DataReader σ) (b : ReaderBinding σ) : Engine σ Unit := do
  match ← Engine.raising Logger.raisesExecute b.logger with
  | none => return ()
  | some logger =>
    let event ← b.info.event
    let recordsAffected ← r.recordsAffected
    logger.readerDisposing mode b.command event ⟨recordsAffected, r.readCount⟩

def closeCursor (mode : Mode) : DataCursor → Engine σ (Outcome Unit)
  | .native c => (c.close mode).observe
  | .buffered _ => return .ok ()

/-- Release everything a binding holds, whatever fails on the way; the first failure counts, and
after them a cancellation. -/
def releaseBinding (mode : Mode) (b : ReaderBinding σ) : Engine σ (Outcome Unit) := do
  let closed ← closeCursor mode b.cursor
  let cleaned ← b.command.cleanUp mode b.info.connection
  match closed with
  | .ok () =>
    match cleaned with
    | .ok () => return mode.checkpoint (← get).scene.cancelled
    | failed => return failed
  | failed =>
    Engine.warn readerTarget "Failed to clean up command after closing the cursor failed" [] cleaned
    return failed

/-- Release what the reader holds; a reader that holds nothing stays as it is. -/
def dispose (mode : Mode) (r : DataReader σ) : Engine σ (Outcome Unit × DataReader σ) :=
  match r.phase with
  | .bound b => do
    announce mode r b
    let outcome ← releaseBinding mode b
    return (outcome, r.retired)
  | _ => return (.ok (), r)

def drop (r : DataReader σ) : Engine σ Unit := do
  if let .error failure := (← r.dispose .blocking).1 then
    Engine.trace .warn readerTarget "Failed to dispose data reader on drop"
      [errorField failure.toError]

/-- Bind the reader to a new execution, once what it held is released. -/
def rebind (mode : Mode) (b : ReaderBinding σ) (r : DataReader σ) : Engine σ (DataReader σ) := do
  let (outcome, _) ← r.dispose mode
  Engine.warn readerTarget "Failed to dispose previous data reader" [] outcome
  return ofBinding b

def cells (r : DataReader σ) : List Nat → Engine σ (Result (List Value))
  | [] => return .ok []
  | ordinal :: rest => do
    match ← r.getValue ordinal with
    | .ok v => return (← cells r rest).map (v :: ·)
    | .error e => return .error e

def drainRows : Nat → DataReader σ → Engine σ (Result (List (List Value)) × DataReader σ)
  | 0, r => return (.ok [], r)
  | n + 1, r => do
    match ← r.read .blocking with
    | (.ok true, r) =>
      match ← r.cells (List.range (← r.fieldCount)) with
      | .error e => return (.error e, r)
      | .ok row =>
        let (rows, r) ← drainRows n r
        return (rows.map (row :: ·), r)
    | (.ok false, r) => return (.ok [], r)
    | (.error failure, r) => return (.error failure.toError, r)

/-- The rows left in the current set and in the sets after it, at most the given number of sets. -/
def drainSets (rowBound : Nat) :
    Nat → DataReader σ → Engine σ (Result (List (List (List Value))) × DataReader σ)
  | 0, r => return (.ok [], r)
  | n + 1, r => do
    match ← r.drainRows rowBound with
    | (.error e, r) => return (.error e, r)
    | (.ok rows, r) =>
      match ← r.nextResult .blocking with
      | (.ok true, r) =>
        let (sets, r) ← drainSets rowBound n r
        return (sets.map (rows :: ·), r)
      | (.ok false, r) => return (.ok [rows], r)
      | (.error failure, r) => return (.error failure.toError, r)

def remaining (r : DataReader σ) : Engine σ Nat :=
  match r.cursor? with
  | none => return 0
  | some (.native c) => c.remaining
  | some (.buffered b) => return b.walk.size

def drain (r : DataReader σ) : Engine σ (Result (List (List (List Value))) × DataReader σ) := do
  let bound ← r.remaining
  r.drainSets (bound + 1) (bound + 1)

def inspect (r : DataReader σ) : Engine σ Message := do
  let minted := r.ticket.bind (← get).commandIds
  return Text.recordText "RelationalDataReader" [Text.field "state" r.phase.name,
    Text.field "command_id" (Text.optionText (minted.map fun id => id)),
    Text.field "buffered" (Text.boolText r.isBuffered),
    Text.field "read_count" (Value.intText r.readCount)]

end DataReader

end SqlExecution
