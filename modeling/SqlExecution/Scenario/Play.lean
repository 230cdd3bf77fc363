import SqlExecution.Scenario.Stage

/-! Playing scenarios. Every step has a reply, a journal of what happened during it, and a view of
what can be seen after it. A step that speaks of something unknown makes the scenario invalid. -/

namespace SqlExecution.Scenario

namespace Step

open Staging

def perform : Step → Staging Reply
  | traceLimit limit => operate (.limitTrace limit)
  | cancel reason => operate (.setCancelled (some reason))
  | resetContext => operate (.setCancelled none)
  | logger name l => do
    modify fun s => { s with loggers := Named.insert name l s.loggers }
    return .nothing
  | raised name => do
    let l ← findLogger name
    let limit := (← get).workspace.session.traceLimit
    return .raised (l.raisesCreate limit) (l.raisesExecute limit) (l.raisesTransaction limit)
  | connect name settings timeout named reports => Staging.connect name settings timeout named reports
  | configure name change => do
    let id ← findConnection name
    engine (Engine.act (Script.modifyConnection id change))
    return .nothing
  | openNative name => do operate (.openNative (← findConnection name) .blocking)
  | closeNative name => do operate (.closeNative (← findConnection name) .blocking)
  | openConnection name mode => do operate (.openConnection (← findConnection name) mode)
  | closeConnection name mode => do operate (.closeConnection (← findConnection name) mode)
  | begin name c isolation mode => do operate (.begin name (← findConnection c) isolation mode)
  | adopt name c label isolation mode => do
    let id ← findConnection c
    operate (.adopt name id (← external label id isolation) mode)
  | complete name completion mode => operate (.complete name completion mode)
  | disposeTransaction name mode => operate (.disposeTransaction name mode)
  | dropTransaction name => operate (.dropTransaction name)
  | declare name s => do
    let _ ← operate (.declare name s)
    return .declared s
  | build name d => do
    let result := d.build
    if let .ok s := result then
      let _ ← operate (.declare name s)
    return .built result
  | populate name s => do
    let _ ← operate (.populate name s)
    return .populated s
  | populateFrom name other => do
    let s := (← findCommand other).statement
    let _ ← operate (.populate name s)
    return .populated s
  | dropCommand name => operate (.dropCommand name)
  | validate name values => do
    return .operation (.done (.ofResult ((← findCommand name).statement.validate values)))
  | execute method name r mode => do operate (execution method name (← resolve r) mode)
  | create method name r => do operate (.createCommand name method (← resolve r))
  | read name mode => operate (.read name mode)
  | nextResult name mode => operate (.nextResult name mode)
  | getValue name ordinal => operate (.getValue name ordinal)
  | isNull name ordinal => operate (.isNull name ordinal)
  | columnName name ordinal => operate (.columnName name ordinal)
  | drain name => operate (.drain name)
  | disposeReader name mode => operate (.disposeReader name mode)
  | readerInfo name => do
    match (← findCommand name).reader with
    | none => return .operation .noReader
    | some r => return .reader (← Staging.readerInfo r)
  | newReader => return .reader (← Staging.readerInfo {})
  | inspect what name => Staging.inspect what name

end Step

structure ConnectionView where
  isOpen : Bool
  openCount : Nat
  ambient : Option Ambient
  deriving DecidableEq, Repr

structure View where
  connections : List (String × ConnectionView)
  transactions : List (String × TransactionState)
  readers : List (String × String)

structure Report where
  reply : Reply
  journal : List Entry
  view : View

namespace Stage

def connectionView (s : Stage) (id : ConnectionId) : ConnectionView :=
  let c := s.workspace.session.connections id
  ⟨Driver.isOpen id s.workspace.session.scene.state, c.openCount, c.ambient⟩

def view (s : Stage) : View where
  connections := s.connections.map fun c => (c.1, s.connectionView c.2)
  transactions := s.workspace.transactions.map fun t => (t.1, t.2.state)
  readers := s.workspace.commands.filterMap fun c => c.2.reader.map fun r => (c.1, r.phase.name)

def clearJournal (s : Stage) : Stage :=
  { s with workspace := { s.workspace with session := { s.workspace.session with journal := [] } } }

end Stage

def report (act : Staging Reply) : Staging Report := do
  modify Stage.clearJournal
  let reply ← act
  let s ← get
  return ⟨reply, s.workspace.session.entries, s.view⟩

def finish : Staging Reply := fun s =>
  some (.finished, { s with workspace := (Program.finish s.workspace).2 })

def play (steps : List Step) : Staging (List Report) := do
  let reports ← steps.mapM fun step => report step.perform
  return reports ++ [← report finish]

/-- Load results into memory over a scripted connection. Gives also what was noted on the way. -/
def load (change : ScriptedConnection → ScriptedConnection) (results : ScriptedResults)
    (mode : Mode) (columns : List ReaderColumn) (detailed : Bool) :
    Outcome BufferedReader × List Entry :=
  let act : Engine Script (Outcome BufferedReader) := do
    let id ← Engine.connect {}
    let cursor ← Engine.act do
      Script.modifyConnection id change
      Script.makeCursor id results.sets results.recordsAffected
    (cursor.load mode columns detailed).observe
  let (outcome, session) := act { scene := ⟨{}, none⟩ }
  (outcome, session.entries)

end SqlExecution.Scenario
