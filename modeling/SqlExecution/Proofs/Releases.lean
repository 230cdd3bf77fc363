import SqlExecution.Engine.Execution
import SqlExecution.Proofs.Opens

/-! Releasing an executed command: it is cleared of its parameters and disposed, and after that the
open is given back that it was executed under, whatever the driver answers on the way. -/

namespace SqlExecution

variable {σ : Type}

namespace Session

variable {s t u : Session σ} {id : ConnectionId} {held : Bool} {mode : Mode}

/-- From one moment to the other the open is given back, if one is held. -/
structure GivesBack (mode : Mode) (id : ConnectionId) (held : Bool) (s t : Session σ) : Prop where
  connections : t.connections = if held then s.given id else s.connections
  calls : t.calls = s.calls ++ if held then id.closeCalls mode s else []

theorem GivesBack.of_issues (h : Issues s [] t) : GivesBack mode id false s t :=
  ⟨h.connections, h.calls⟩

theorem GivesBack.before (h : GivesBack mode id held s t) (quiet : Issues t [] u) :
    GivesBack mode id held s u :=
  ⟨quiet.connections.trans h.connections, by rw [quiet.calls, List.append_nil, h.calls]⟩

theorem GivesBack.openCount (h : GivesBack mode id held s t) (i : ConnectionId) :
    t.openCount i = s.openCount i - if held ∧ i = id then 1 else 0 := by
  have count : t.openCount i = (t.connections i).openCount := rfl
  rw [count, h.connections]
  cases held with
  | false => simp [openCount]
  | true => simp [openCount_given]

end Session

namespace NativeCommand

/-- The same command of the driver's, whatever it is set to execute. -/
def Same (a b : NativeCommand) : Prop := a.connection = b.connection ∧ a.handle = b.handle

theorem Same.trans {a b c : NativeCommand} (first : Same a b) (second : Same b c) : Same a c :=
  ⟨first.1.trans second.1, first.2.trans second.2⟩

/-- From one moment to the other the command is cleared and disposed, and then the open is given
back that it was executed under, if it got one. -/
def Released (mode : Mode) (id : ConnectionId) (held : Bool) (c : NativeCommand) (s t : Session σ) :
    Prop :=
  ∃ u, s.Issues [.clearParameters c, .dispose c.clear mode] u ∧ u.GivesBack mode id held t

variable {s t u : Session σ} {id : ConnectionId} {held : Bool} {mode : Mode} {c : NativeCommand}

theorem Released.after (quiet : s.Issues [] t) (h : c.Released mode id held t u) :
    c.Released mode id held s u := by
  obtain ⟨v, disposed, back⟩ := h
  exact ⟨v, quiet.trans disposed, back⟩

theorem Released.before (h : c.Released mode id held s t) (quiet : t.Issues [] u) :
    c.Released mode id held s u := by
  obtain ⟨v, disposed, back⟩ := h
  exact ⟨v, disposed, back.before quiet⟩

theorem Released.openCount (h : c.Released mode id held s t) (i : ConnectionId) :
    t.openCount i = s.openCount i - if held ∧ i = id then 1 else 0 := by
  obtain ⟨u, disposed, back⟩ := h
  rw [back.openCount, disposed.openCount]

variable [Driver σ]

theorem discard_issues (mode : Mode) (c : NativeCommand) (s : Session σ) :
    s.Issues [.clearParameters c, .dispose c.clear mode] (c.discard mode s).2 := by
  have cleared := Session.issues_noted (.clearParameters c) s
  have disposed := Engine.issues_call (.dispose c.clear mode)
    ((Driver.dispose c.clear).perform mode) (s.noted (.native (.clearParameters c)))
  exact cleared.trans disposed

theorem releaseOutcome_givesBack (mode : Mode) (id : ConnectionId) (s : Session σ) :
    s.GivesBack mode id true (id.releaseOutcome mode s).2 :=
  ⟨id.releaseOutcome_connections mode s, id.releaseOutcome_calls mode s⟩

theorem cleanUp_released (mode : Mode) (id : ConnectionId) (c : NativeCommand) (s : Session σ) :
    c.Released mode id true s (c.cleanUp mode id s).2 :=
  ⟨_, discard_issues mode c s, releaseOutcome_givesBack mode id _⟩

end NativeCommand

namespace Statement

open Trace

variable [Driver σ]

def reportFailure (mode : Mode) (logger : Option (Logger σ)) (info : ExecutionInfo)
    (c : NativeCommand) (e : Error) : Engine σ Unit :=
  match logger with
  | none => pure ()
  | some logger => do logger.commandFailed mode c (← info.event) e

/-- Release the command of a failed execution and, where there is one, its open. -/
def discharge (mode : Mode) (info : ExecutionInfo) (c : NativeCommand) (opened : Bool) :
    Engine σ Unit := do
  let disposed ← c.discard mode
  let closed ← if opened then info.connection.releaseOutcome mode else pure (.ok ())
  let complain := Engine.warn commandTarget "Cleanup after a failed command also failed"
    [connectionField info.connection]
  complain disposed
  complain closed

theorem abandon_eq (mode : Mode) (logger : Option (Logger σ)) (info : ExecutionInfo)
    (c : NativeCommand) (e : Error) (opened : Bool) :
    abandon mode logger info c e opened = (do
      reportFailure mode logger info c e
      discharge mode info c opened) := by
  cases logger <;> rfl

theorem discharge_released (mode : Mode) (info : ExecutionInfo) (c : NativeCommand) (opened : Bool)
    (s : Session σ) :
    c.Released mode info.connection opened s (discharge mode info c opened s).2 := by
  refine ⟨_, NativeCommand.discard_issues mode c s, ?_⟩
  have warned : ∀ a b : Outcome Unit, Engine.Only (fun _ => False) (do
      Engine.warn commandTarget "Cleanup after a failed command also failed"
        [connectionField info.connection] a
      Engine.warn commandTarget "Cleanup after a failed command also failed"
        [connectionField info.connection] b : Engine σ Unit) := fun a b =>
    (Engine.obeys_warn _ _ _ a).bind fun _ => Engine.obeys_warn _ _ _ b
  cases opened with
  | false =>
    have quiet := warned (c.discard mode s).1 (.ok ()) (c.discard mode s).2
    exact .of_issues quiet.silent
  | true =>
    have quiet := warned (c.discard mode s).1
      (info.connection.releaseOutcome mode (c.discard mode s).2).1
      (info.connection.releaseOutcome mode (c.discard mode s).2).2
    exact (NativeCommand.releaseOutcome_givesBack mode info.connection _).before quiet.silent

omit [Driver σ] in
theorem only_reportFailure {P : NativeCall → Prop} (mode : Mode) (logger : Option (Logger σ))
    (info : ExecutionInfo) (c : NativeCommand) (e : Error) :
    Engine.Only P (reportFailure mode logger info c e) := by
  cases logger with
  | none => exact .pure ()
  | some l => exact info.obeys_event.bind fun event => l.only_commandFailed mode c event e

theorem abandon_released (mode : Mode) (logger : Option (Logger σ)) (info : ExecutionInfo)
    (c : NativeCommand) (e : Error) (opened : Bool) (s : Session σ) :
    c.Released mode info.connection opened s (abandon mode logger info c e opened s).2 := by
  rw [abandon_eq]
  -- The report comes first and changes nothing that matters here, whoever it is made to.
  exact (discharge_released mode info c opened _).after
    (only_reportFailure mode logger info c e s).silent

end Statement

end SqlExecution
