import SqlExecution.Native.Driver
import SqlExecution.ResultSet

/-! A driver in memory that follows a script: every connection has settings that say what executing
commands gives, and for each method the faults of its next calls. -/

namespace SqlExecution

variable {α : Type}

inductive NativeMethod where
  | openConnection
  | closeConnection
  | createCommand
  | begin
  | commit
  | rollback
  | executeNonQuery
  | executeScalar
  | executeReader
  | dispose
  | read
  | nextResult
  | getValue
  | columnName
  | closeCursor
  deriving DecidableEq, Repr

inductive Fault where
  | error (e : Error)
  /-- The context is cancelled while the call goes on. -/
  | cancelContext (reason : CancelReason)
  /-- An asynchronous call ends so; a blocking one goes on. -/
  | interrupt (failure : Failure)
  deriving DecidableEq, Repr

structure ScriptedConnection where
  isOpen : Bool := false
  rowsAffected : Int64 := 0
  scalar : Option Value := none
  sets : List ResultSet := []
  recordsAffected : Int64 := -1
  /-- One entry for each of the next calls of a method; after them nothing goes wrong. -/
  faults : NativeMethod → List (Option Fault) := fun _ => []

/-- A cursor has its own copy of the result sets. -/
structure ScriptedCursor where
  walk : Walk
  recordsAffected : Int64

structure Script where
  connections : ConnectionId → ScriptedConnection := fun _ => {}
  /-- A cursor's handle is its place here. -/
  cursors : List ScriptedCursor := []
  commands : Nat := 0
  transactions : Nat := 0

namespace Script

def setConnection (id : ConnectionId) (c : ScriptedConnection) (s : Script) : Script :=
  { s with connections := fun i => if i = id then c else s.connections i }

def update (f : Script → Script) : Act Script Unit :=
  modify fun scene => { scene with state := f scene.state }

def modifyConnection (id : ConnectionId) (f : ScriptedConnection → ScriptedConnection) :
    Act Script Unit :=
  update fun s => s.setConnection id (f (s.connections id))

def connection (id : ConnectionId) : Act Script ScriptedConnection :=
  return (← get).state.connections id

def cancel (reason : CancelReason) : Act Script Unit :=
  modify fun scene => { scene with cancelled := some reason }

/-- The fault of the next call of a method, which is used up. -/
def takeFault (id : ConnectionId) (method : NativeMethod) : Act Script (Option Fault) := do
  match (← connection id).faults method with
  | [] => return none
  | fault :: rest =>
    modifyConnection id fun c =>
      { c with faults := fun m => if m = method then rest else c.faults m }
    return fault

/-- A call: first its fault, then its effect. -/
def call (id : ConnectionId) (method : NativeMethod) (effect : Act Script (Result α)) :
    Dual Script α where
  blocking := do
    match ← takeFault id method with
    | some (.error e) => return .error e
    | some (.cancelContext reason) => cancel reason; effect
    | _ => effect
  async := do
    match ← takeFault id method with
    | some (.error e) => return .error (.error e)
    | some (.cancelContext reason) => cancel reason; return .ofResult (← effect)
    | some (.interrupt failure) => return .error failure
    | none => return .ofResult (← effect)

def setOpen (id : ConnectionId) (isOpen : Bool) : Act Script (Result Unit) :=
  Except.ok <$> modifyConnection id fun c => { c with isOpen := isOpen }

def makeCommand (id : ConnectionId) (tag : Option String) : Act Script NativeCommand := do
  let handle := (← get).state.commands
  update fun s => { s with commands := handle + 1 }
  return { NativeCommand.blank id handle with tag }

def transactionLabel (serial : Nat) : String := "n" ++ Value.intText serial

/-- A new transaction; the first is labelled n1, the next n2 and so on. -/
def makeTransaction (id : ConnectionId) (isolation : IsolationLevel) :
    Act Script NativeTransaction := do
  let serial := (← get).state.transactions + 1
  update fun s => { s with transactions := serial }
  return ⟨id, transactionLabel serial, isolation⟩

def makeCursor (id : ConnectionId) (sets : List ResultSet) (recordsAffected : Int64) :
    Act Script Cursor := do
  let handle := (← get).state.cursors.length
  update fun s => { s with cursors := s.cursors ++ [⟨{ sets }, recordsAffected⟩] }
  return ⟨id, handle⟩

def cursor (c : Cursor) (s : Script) : ScriptedCursor :=
  (s.cursors[c.handle]?).getD ⟨{ sets := [] }, -1⟩

def move (c : Cursor) (step : Walk → Bool × Walk) : Act Script (Result Bool) := do
  let moved := step ((← get).state.cursor c).walk
  update fun s =>
    { s with cursors := s.cursors.modify c.handle fun k => { k with walk := moved.2 } }
  return .ok moved.1

def noColumn (ordinal : Nat) : Error :=
  .reader .ordinalOutOfRange ("no column " ++ Value.intText ordinal)

def noValue (ordinal : Nat) : Error := .reader .noRow ("no value at " ++ Value.intText ordinal)

def columnName (c : Cursor) (ordinal : Nat) : Act Script (Result String) := do
  match ((← get).state.cursor c).walk.current.columns[ordinal]? with
  | some name => return .ok name
  | none => return .error (noColumn ordinal)

def getValue (c : Cursor) (ordinal : Nat) : Act Script (Result Value) := do
  match ((← get).state.cursor c).walk.row?.bind (·[ordinal]?) with
  | some v => return .ok v
  | none => return .error (noValue ordinal)

instance : Driver Script where
  isOpen id s := (s.connections id).isOpen
  openConnection id := call id .openConnection (setOpen id true)
  closeConnection id := call id .closeConnection (setOpen id false)
  createCommand id := (call id .createCommand (Except.ok <$> makeCommand id none)).blocking
  begin id isolation := call id .begin (Except.ok <$> makeTransaction id isolation)
  commit t := call t.connection .commit (return .ok ())
  rollback t := call t.connection .rollback (return .ok ())
  executeNonQuery c :=
    call c.connection .executeNonQuery (return .ok (← connection c.connection).rowsAffected)
  executeScalar c :=
    call c.connection .executeScalar (return .ok (← connection c.connection).scalar)
  executeReader c := call c.connection .executeReader do
    let settings ← connection c.connection
    return .ok (← makeCursor c.connection settings.sets settings.recordsAffected)
  dispose c := .ofBlocking (call c.connection .dispose (return .ok ())).blocking
  fieldCount c s := (s.cursor c).walk.fieldCount
  recordsAffected c s := (s.cursor c).recordsAffected
  remaining c s := (s.cursor c).walk.size
  columnName c ordinal := (call c.connection .columnName (columnName c ordinal)).blocking
  read c := call c.connection .read (move c Walk.read)
  nextResult c := call c.connection .nextResult (move c Walk.nextResult)
  getValue c ordinal := (call c.connection .getValue (getValue c ordinal)).blocking
  closeCursor c := call c.connection .closeCursor (return .ok ())

end Script

end SqlExecution
