import SqlExecution.Engine.Execution
import SqlExecution.Engine.Transaction
import SqlExecution.Named

/-! Programs: sequences of operations on connections, and on transactions and commands that are kept
under names. Each operation has an answer. -/

namespace SqlExecution

variable {σ α : Type}

/-- The engine with the transactions and commands that a program holds. -/
structure Workspace (σ : Type) where
  session : Session σ
  transactions : List (String × Transaction σ) := []
  commands : List (String × Command σ) := []

def Workspace.begun (scene : Scene σ) : Workspace σ := { session := { scene } }

inductive Operation (σ : Type) where
  /-- Keep the trace records of these levels from now on. -/
  | limitTrace (limit : Option TraceLevel)
  /-- Cancel the context of asynchronous operations, or go on with a fresh one. -/
  | setCancelled (reason : Option CancelReason)
  /-- Call the driver past the engine. -/
  | openNative (connection : ConnectionId) (mode : Mode)
  | closeNative (connection : ConnectionId) (mode : Mode)
  | openConnection (connection : ConnectionId) (mode : Mode)
  | closeConnection (connection : ConnectionId) (mode : Mode)
  /-- Begin a transaction and keep it; one that is kept under the name goes out of scope. -/
  | begin (name : String) (connection : ConnectionId) (isolation : IsolationLevel) (mode : Mode)
  | adopt (name : String) (connection : ConnectionId) (native : NativeTransaction) (mode : Mode)
  | complete (name : String) (completion : Completion) (mode : Mode)
  | disposeTransaction (name : String) (mode : Mode)
  | dropTransaction (name : String)
  | declare (name : String) (statement : Statement)
  | populate (name : String) (statement : Statement)
  | dropCommand (name : String)
  | executeNonQuery (name : String) (request : Request σ) (mode : Mode)
  | executeScalar (name : String) (request : Request σ) (mode : Mode)
  | executeReader (name : String) (request : Request σ) (mode : Mode)
  | createCommand (name : String) (method : Method) (request : Request σ)
  | read (name : String) (mode : Mode)
  | nextResult (name : String) (mode : Mode)
  | getValue (name : String) (ordinal : Nat)
  | isNull (name : String) (ordinal : Nat)
  | columnName (name : String) (ordinal : Nat)
  | drain (name : String)
  | disposeReader (name : String) (mode : Mode)

inductive Answer (σ : Type) where
  | nothing
  | done (outcome : Outcome Unit)
  | flag (outcome : Outcome Bool)
  | affected (outcome : Outcome Int64)
  | scalar (outcome : Outcome (Option Value))
  | value (outcome : Outcome Value)
  | name (outcome : Outcome String)
  | begun (outcome : Outcome (Transaction σ))
  | bound (outcome : Outcome (DataReader σ))
  | created (outcome : Outcome NativeCommand) (id : Option CommandId)
  | drained (result : Result (List (List (List Value))))
  | noTransaction
  | noCommand
  /-- The command was not executed for a reader yet. -/
  | noReader

abbrev Program (σ α : Type) := StateM (Workspace σ) α

namespace Program

@[simp] theorem pure_apply (a : α) (w : Workspace σ) : (pure a : Program σ α) w = (a, w) := rfl

@[simp] theorem bind_apply {β : Type} (m : Program σ α) (f : α → Program σ β) (w : Workspace σ) :
    (m >>= f) w = f (m w).1 (m w).2 := rfl

@[simp] theorem get_apply (w : Workspace σ) : (get : Program σ (Workspace σ)) w = (w, w) := rfl

def engine (m : Engine σ α) : Program σ α := fun w =>
  let (a, s) := m w.session
  (a, { w with session := s })

@[simp] theorem engine_apply (m : Engine σ α) (w : Workspace σ) :
    engine m w = ((m w.session).1, { w with session := (m w.session).2 }) := rfl

def keepTransaction (name : String) (t : Transaction σ) : Program σ Unit :=
  modify fun w => { w with transactions := Named.insert name t w.transactions }

def keepCommand (name : String) (c : Command σ) : Program σ Unit :=
  modify fun w => { w with commands := Named.insert name c w.commands }

def withTransaction (name : String) (act : Transaction σ → Program σ (Answer σ)) :
    Program σ (Answer σ) := do
  match Named.find? name (← get).transactions with
  | some t => act t
  | none => return .noTransaction

def withCommand (name : String) (act : Command σ → Program σ (Answer σ)) :
    Program σ (Answer σ) := do
  match Named.find? name (← get).commands with
  | some c => act c
  | none => return .noCommand

/-- Act on the reader of a command, and keep what becomes of it. -/
def withReader (name : String) (act : DataReader σ → Engine σ (Answer σ × DataReader σ)) :
    Program σ (Answer σ) :=
  withCommand name fun c =>
    match c.reader with
    | none => return .noReader
    | some r => do
      let (answer, r) ← engine (act r)
      keepCommand name { c with reader := r }
      return answer

def lookAtReader (name : String) (act : DataReader σ → Engine σ (Answer σ)) :
    Program σ (Answer σ) :=
  withReader name fun r => return (← act r, r)

variable [Driver σ]

/-- Keep a transaction that was begun. What was kept under its name before goes out of scope. -/
def keepBegun (name : String) (outcome : Outcome (Transaction σ)) : Program σ (Answer σ) := do
  if let .ok t := outcome then
    if let some old := Named.find? name (← get).transactions then
      engine old.drop
    keepTransaction name t
  return .begun outcome

def dropTransaction (name : String) : Program σ (Answer σ) :=
  withTransaction name fun t => do
    modify fun w => { w with transactions := Named.erase name w.transactions }
    engine t.drop
    return .nothing

def dropCommand (name : String) : Program σ (Answer σ) :=
  withCommand name fun c => do
    modify fun w => { w with commands := Named.erase name w.commands }
    engine c.drop
    return .nothing

end Program

namespace Operation

variable [Driver σ]

open Program

def perform : Operation σ → Program σ (Answer σ)
  | limitTrace limit => do
    engine (modify fun s => { s with traceLimit := limit })
    return .nothing
  | setCancelled reason => do
    engine (Engine.act (modify fun scene => { scene with cancelled := reason }))
    return .nothing
  | openNative c mode =>
    .done <$> engine (c.callNative .openConnection Driver.openConnection mode).observe
  | closeNative c mode =>
    .done <$> engine (c.callNative .closeConnection Driver.closeConnection mode).observe
  | openConnection c mode => .flag <$> engine (c.acquire mode).observe
  | closeConnection c mode => .flag <$> engine (c.release mode).observe
  | begin name c isolation mode => do
    keepBegun name (← engine (Transaction.start mode c isolation).observe)
  | adopt name c native mode => do
    keepBegun name (← engine (Transaction.adopt mode c native).observe)
  | complete name completion mode => withTransaction name fun t => do
    let (outcome, t) ← engine (t.complete mode completion)
    keepTransaction name t
    return .done outcome
  | disposeTransaction name mode => withTransaction name fun t => do
    let (outcome, t) ← engine (t.dispose mode)
    keepTransaction name t
    return .done outcome
  | dropTransaction name => Program.dropTransaction name
  | declare name s => do
    let old := Named.find? name (← get).commands
    keepCommand name { statement := s }
    if let some c := old then engine c.drop
    return .nothing
  | populate name s => withCommand name fun c => do
    keepCommand name (c.populate s)
    return .nothing
  | dropCommand name => Program.dropCommand name
  | executeNonQuery name r mode => withCommand name fun c =>
    .affected <$> engine (c.statement.executeNonQuery mode r).observe
  | executeScalar name r mode => withCommand name fun c =>
    .scalar <$> engine (c.statement.executeScalar mode r).observe
  | executeReader name r mode => withCommand name fun c => do
    let (outcome, c) ← engine (c.executeReader mode r)
    keepCommand name c
    return .bound outcome
  | createCommand name method r => withCommand name fun c => do
    let (outcome, id) ← engine (c.statement.createCommand method r)
    return .created outcome id
  | read name mode => withReader name fun r => do
    let (outcome, r) ← r.read mode
    return (.flag outcome, r)
  | nextResult name mode => withReader name fun r => do
    let (outcome, r) ← r.nextResult mode
    return (.flag outcome, r)
  | getValue name ordinal => lookAtReader name fun r =>
    return .value (.ofResult (← r.getValue ordinal))
  | isNull name ordinal => lookAtReader name fun r =>
    return .flag (.ofResult (← r.isNull ordinal))
  | columnName name ordinal => lookAtReader name fun r =>
    return .name (.ofResult (← r.columnName ordinal))
  | drain name => withReader name fun r => do
    let (result, r) ← r.drain
    return (.drained result, r)
  | disposeReader name mode => withReader name fun r => do
    let (outcome, r) ← r.dispose mode
    return (.done outcome, r)

end Operation

namespace Program

variable [Driver σ]

def run (ops : List (Operation σ)) : Program σ (List (Answer σ)) := ops.mapM Operation.perform

@[simp] theorem run_nil (w : Workspace σ) : run [] w = ([], w) := rfl

theorem run_cons (op : Operation σ) (ops : List (Operation σ)) (w : Workspace σ) :
    run (op :: ops) w =
      ((op.perform w).1 :: (run ops (op.perform w).2).1, (run ops (op.perform w).2).2) := by
  unfold run
  rw [List.mapM_cons]
  rfl

theorem run_append (ops more : List (Operation σ)) (w : Workspace σ) :
    run (ops ++ more) w =
      ((run ops w).1 ++ (run more (run ops w).2).1, (run more (run ops w).2).2) := by
  induction ops generalizing w with
  | nil => rfl
  | cons op ops ih => simp [run_cons, ih]

/-- Take everything out of scope: transactions in the order of their names, then commands. -/
def finish : Program σ Unit := do
  (← get).transactions.forM fun t => do
    let _ ← dropTransaction t.1
  (← get).commands.forM fun c => do
    let _ ← dropCommand c.1

end Program

end SqlExecution
