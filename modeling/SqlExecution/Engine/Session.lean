import SqlExecution.Diagnostics.Logger

/-! The state that connections and executions share, and the two kinds of computation on it: an
`Engine` computation always ends with a value, an `Attempt` may fail and then stops. -/

namespace SqlExecution

/-- The transaction that new commands on a connection take part in. -/
structure Ambient where
  native : NativeTransaction
  id : TransactionId
  deriving DecidableEq, Repr

structure Connection (σ : Type) where
  /-- In milliseconds. -/
  timeout : Option Nat := none
  logger : Option (Logger σ) := none
  /-- The connection reports the transactions that are wrapped for it. -/
  reportsWrapping : Bool := false
  openCount : Nat := 0
  /-- The native connection was opened through this one since it was last closed through it. -/
  openedHere : Bool := false
  ambient : Option Ambient := none

/-- A place for the identifier of an execution, which is only minted when an event needs it. -/
abbrev Ticket := Nat

/-- Something that happened, with the scene that it found. -/
structure Moment (σ : Type) where
  scene : Scene σ
  entry : Entry

structure Session (σ : Type) where
  scene : Scene σ
  traceLimit : Option TraceLevel := none
  connections : ConnectionId → Connection σ := fun _ => {}
  commandIds : Ticket → Option CommandId := fun _ => none
  /-- The first ticket not handed out yet. -/
  nextTicket : Ticket := 0
  /-- The first serial number not minted yet for a connection or a transaction. -/
  nextSerial : Nat := 0
  /-- The first serial number not minted yet for an execution. -/
  nextCommand : Nat := 0
  journal : List (Moment σ) := []

abbrev Engine (σ : Type) := StateM (Session σ)

abbrev Attempt (σ : Type) := ExceptT Failure (Engine σ)

variable {σ α β : Type}

namespace Session

def entries (s : Session σ) : List Entry := s.journal.map (·.entry)

def setConnection (s : Session σ) (id : ConnectionId) (c : Connection σ) : Session σ :=
  { s with connections := fun i => if i = id then c else s.connections i }

def setCommandId (s : Session σ) (t : Ticket) (id : CommandId) : Session σ :=
  { s with commandIds := fun i => if i = t then some id else s.commandIds i }

@[simp] theorem setConnection_same (s : Session σ) (id : ConnectionId) (c : Connection σ) :
    (s.setConnection id c).connections id = c := by simp [setConnection]

theorem setConnection_of_ne (s : Session σ) {i id : ConnectionId} (h : i ≠ id) (c : Connection σ) :
    (s.setConnection id c).connections i = s.connections i := by simp [setConnection, h]

end Session

namespace Engine

@[simp] theorem pure_apply (a : α) (s : Session σ) : (pure a : Engine σ α) s = (a, s) := rfl

@[simp] theorem bind_apply (m : Engine σ α) (f : α → Engine σ β) (s : Session σ) :
    (m >>= f) s = f (m s).1 (m s).2 := rfl

@[simp] theorem map_apply (f : α → β) (m : Engine σ α) (s : Session σ) :
    (f <$> m) s = (f (m s).1, (m s).2) := rfl

def record (e : Entry) : Engine σ Unit :=
  modify fun s => { s with journal := s.journal ++ [⟨s.scene, e⟩] }

def act (a : Act σ α) : Engine σ α := fun s =>
  let (x, scene) := a s.scene
  (x, { s with scene := scene })

/-- Call the driver; the call is noted before it is made. -/
def call (note : NativeCall) (a : Act σ α) : Engine σ α := do
  record (.native note)
  act a

/-- Write a trace record, if records of its level are kept. -/
def trace (level : TraceLevel) (target message : String) (fields : List (String × TraceValue)) :
    Engine σ Unit := do
  if level.isKept (← get).traceLimit then record (.trace ⟨level, target, message, fields⟩)

def connection (id : ConnectionId) : Engine σ (Connection σ) := return (← get).connections id

def modifyConnection (id : ConnectionId) (f : Connection σ → Connection σ) : Engine σ Unit :=
  modify fun s => s.setConnection id (f (s.connections id))

/-- Keep the logger of which the events in question are raised now. -/
def raising (gate : Logger σ → Option TraceLevel → Bool) (logger : Option (Logger σ)) :
    Engine σ (Option (Logger σ)) := do
  let limit := (← get).traceLimit
  return logger.filter (gate · limit)

def newTicket : Engine σ Ticket :=
  modifyGet fun s => (s.nextTicket, { s with nextTicket := s.nextTicket + 1 })

/-- Another ticket, for the same identifier if that is minted already. -/
def copyTicket (t : Ticket) : Engine σ Ticket := do
  let copy ← newTicket
  if let some id := (← get).commandIds t then modify (·.setCommandId copy id)
  return copy

def mint : Engine σ Nat :=
  modifyGet fun s => (s.nextSerial, { s with nextSerial := s.nextSerial + 1 })

def mintCommand : Engine σ CommandId :=
  modifyGet fun s => (⟨s.nextCommand⟩, { s with nextCommand := s.nextCommand + 1 })

/-- The identifier behind a ticket, minted the first time it is asked for. -/
def commandId (t : Ticket) : Engine σ CommandId := do
  match (← get).commandIds t with
  | some id => return id
  | none =>
    let id ← mintCommand
    modify (·.setCommandId t id)
    return id

end Engine

namespace Attempt

/-- Carry on with how a computation ended. -/
def observe (m : Attempt σ α) : Engine σ (Outcome α) := m.run

def lift (m : Engine σ α) : Attempt σ α := ExceptT.lift m

def outcome (m : Attempt σ α) : Attempt σ (Outcome α) := lift m.observe

def ofOutcome (o : Outcome α) : Attempt σ α := ExceptT.mk (pure o)

def ofResult (r : Result α) : Attempt σ α := ofOutcome (.ofResult r)

def call (note : NativeCall) (mode : Mode) (d : Dual σ α) : Attempt σ α :=
  ExceptT.mk (Engine.call note (d.perform mode))

def callPlain (note : NativeCall) (a : Act σ (Result α)) : Attempt σ α :=
  ExceptT.mk (Outcome.ofResult <$> Engine.call note a)

@[simp] theorem observe_pure (a : α) : (pure a : Attempt σ α).observe = pure (.ok a) := rfl

@[simp] theorem observe_throw (failure : Failure) :
    (throw failure : Attempt σ α).observe = pure (.error failure) := rfl

theorem observe_bind (m : Attempt σ α) (f : α → Attempt σ β) :
    (m >>= f).observe = m.observe >>= fun
      | .ok a => (f a).observe
      | .error failure => pure (.error failure) := by
  funext s
  change (match m s with | (a, s) => ExceptT.bindCont f a s) = _
  rcases h : m s with ⟨_ | _, _⟩ <;> simp [observe, ExceptT.run, ExceptT.bindCont, h]

@[simp] theorem observe_lift (m : Engine σ α) : (lift m).observe = .ok <$> m := rfl

@[simp] theorem observe_outcome (m : Attempt σ α) : m.outcome.observe = .ok <$> m.observe := rfl

@[simp] theorem observe_ofOutcome (o : Outcome α) : (ofOutcome o : Attempt σ α).observe = pure o :=
  rfl

@[simp] theorem observe_call (note : NativeCall) (mode : Mode) (d : Dual σ α) :
    (call note mode d).observe = Engine.call note (d.perform mode) := rfl

def trace (level : TraceLevel) (target message : String) (fields : List (String × TraceValue)) :
    Attempt σ Unit := lift (Engine.trace level target message fields)

/-- Stop if the context of an asynchronous operation is cancelled. -/
def checkpoint (mode : Mode) : Attempt σ Unit := do
  ofOutcome (mode.checkpoint (← get).scene.cancelled)

end Attempt

/-- The first failure of two steps that both run, in order. -/
def Outcome.andThen (first second : Outcome Unit) : Outcome Unit :=
  match first with
  | .ok () => second
  | failed => failed

/-- Warn of an error that cannot be returned; cancellations and panics are no errors. -/
def Engine.warn (target message : String) (fields : List (String × TraceValue)) :
    Outcome Unit → Engine σ Unit
  | .error (.error e) => trace .warn target message (fields ++ [("error", .text e.message)])
  | _ => pure ()

end SqlExecution
