import SqlExecution.Engine.Connection

/-! Transactions. A wrapper holds one open on its connection and is the connection's ambient
transaction until it is committed, rolled back or disposed. One that owns the native transaction
rolls it back when it is disposed while active. -/

namespace SqlExecution

variable {σ : Type}

open Trace

inductive TransactionState where
  | active
  | committed
  | rolledBack
  | disposed
  deriving DecidableEq, Repr

def TransactionState.name : TransactionState → String
  | active => "Active"
  | committed => "Committed"
  | rolledBack => "RolledBack"
  | disposed => "Disposed"

inductive Completion where
  | commit
  | rollback
  deriving DecidableEq, Repr

namespace Completion

def name : Completion → String
  | commit => "Commit"
  | rollback => "Rollback"

def participle : Completion → String
  | commit => "Committed"
  | rollback => "Rolled back"

def state : Completion → TransactionState
  | commit => .committed
  | rollback => .rolledBack

def note (t : NativeTransaction) (mode : Mode) : Completion → NativeCall
  | commit => .commit t mode
  | rollback => .rollback t mode

def native [Driver σ] (t : NativeTransaction) : Completion → Dual σ Unit
  | commit => Driver.commit t
  | rollback => Driver.rollback t

end Completion

structure Transaction (σ : Type) where
  connection : ConnectionId
  native : NativeTransaction
  id : TransactionId
  logger : Option (Logger σ)
  /-- Disposing it while active rolls the native transaction back. -/
  owned : Bool
  state : TransactionState := .active
  /-- The open it held was given back. -/
  released : Bool := false

def Ambient.alreadyStarted (a : Ambient) : Error :=
  .transaction .alreadyStarted (("The connection is already in transaction " : Message) ++ a.id ++ ".") none

namespace Transaction

def completedError (t : Transaction σ) : Error :=
  .transaction .completed
    (("Transaction " : Message) ++ t.id ++ " is no longer active (" ++ t.state.name ++ ").") none

/-- Make a native transaction the ambient one and wrap it. -/
def wrap (connection : ConnectionId) (native : NativeTransaction) (id : TransactionId)
    (owned : Bool) : Engine σ (Transaction σ) := do
  Engine.modifyConnection connection fun c => { c with ambient := some ⟨native, id⟩ }
  let c ← Engine.connection connection
  if c.reportsWrapping then
    Engine.record (.wrapped ⟨id, native, c.logger.isSome, owned⟩)
  return { connection, native, id, logger := c.logger, owned }

def ensureNone (connection : ConnectionId) : Attempt σ Unit := do
  match ((← get).connections connection).ambient with
  | some a => throw (.error a.alreadyStarted)
  | none => pure ()

variable [Driver σ]

def releaseAfterFailure (mode : Mode) (connection : ConnectionId) : Engine σ Unit := do
  Engine.warn connectionTarget "Failed to close connection after a failed begin"
    [connectionField connection] (← connection.releaseOutcome mode)

def beginNative (mode : Mode) (connection : ConnectionId) (isolation : IsolationLevel)
    (id : TransactionId) : Attempt σ NativeTransaction := do
  let begun : Attempt σ NativeTransaction :=
    Attempt.call (.begin connection mode isolation) mode (Driver.begin connection isolation)
  let logger := ((← get).connections connection).logger
  match ← Attempt.lift (Engine.raising Logger.raisesTransaction logger) with
  | none => begun
  | some logger =>
    let event : TransactionEvent := ⟨connection, id, isolation, mode.isAsync⟩
    let native ← match ← logger.transactionStarting mode event with
      | .hasResult native => pure native
      | .noResult => begun
    logger.transactionStarted mode event native

def start (mode : Mode) (connection : ConnectionId) (isolation : IsolationLevel) :
    Attempt σ (Transaction σ) := do
  ensureNone connection
  Attempt.checkpoint mode
  let _ ← connection.acquire mode
  let id : TransactionId := ⟨← Attempt.lift Engine.mint⟩
  match ← (beginNative mode connection isolation id).outcome with
  | .ok native => Attempt.lift (wrap connection native id true)
  | .error failure =>
    Attempt.lift (releaseAfterFailure mode connection)
    throw failure

/-- Take part in a native transaction that someone else owns. -/
def adopt (mode : Mode) (connection : ConnectionId) (native : NativeTransaction) :
    Attempt σ (Transaction σ) := do
  ensureNone connection
  let _ ← connection.acquire mode
  let id : TransactionId := ⟨← Attempt.lift Engine.mint⟩
  Attempt.trace .debug transactionTarget "Using external transaction"
    [connectionField connection, transactionField id]
  Attempt.lift (wrap connection native id false)

/-- Cease to be the ambient transaction, and give back the open if that was not done before. -/
def clear (mode : Mode) (t : Transaction σ) : Engine σ (Outcome Unit × Transaction σ) := do
  Engine.modifyConnection t.connection fun c =>
    if c.ambient.any (·.id = t.id) then { c with ambient := none } else c
  if t.released then return (.ok (), t)
  return (← t.connection.releaseOutcome mode, { t with released := true })

/-- Commit or roll back. Only success changes the wrapper. -/
def complete (mode : Mode) (completion : Completion) (t : Transaction σ) :
    Engine σ (Outcome Unit × Transaction σ) := do
  if t.state ≠ .active then return (.error (.error t.completedError), t)
  if let .error failure := mode.checkpoint (← get).scene.cancelled then return (.error failure, t)
  match ← (Attempt.call (completion.note t.native mode) mode (completion.native t.native)).observe with
  | .ok () =>
    Engine.trace .debug transactionTarget (completion.participle ++ " transaction")
      [transactionField t.id, connectionField t.connection]
    clear mode { t with state := completion.state }
  | .error failure =>
    if let .error e := failure then
      Engine.trace .error transactionTarget ("Transaction " ++ completion.name ++ " failed")
        [transactionField t.id, connectionField t.connection, errorField e]
    return (.error failure, t)

/-- Roll back if that is this wrapper's to do. -/
def abort (mode : Mode) (t : Transaction σ) : Engine σ (Outcome Unit) := do
  if t.state = .active ∧ t.owned then
    Engine.trace .debug transactionTarget "Rolling back transaction on dispose" [transactionField t.id]
    (Attempt.call (.rollback t.native mode) mode (Driver.rollback t.native)).observe
  else return .ok ()

/-- Release everything the wrapper holds; doing so again does nothing. -/
def dispose (mode : Mode) (t : Transaction σ) : Engine σ (Outcome Unit × Transaction σ) := do
  if t.state = .disposed then return (.ok (), t)
  let rolledBack ← abort mode t
  let (cleared, t) ← clear mode { t with state := .disposed }
  return (rolledBack.andThen cleared, t)

def drop (t : Transaction σ) : Engine σ Unit := do
  if t.state = .disposed then return ()
  if let .error failure := (← dispose .blocking t).1 then
    Engine.trace .warn transactionTarget "Failed to dispose transaction on drop"
      [transactionField t.id, errorField failure.toError]

end Transaction

end SqlExecution
