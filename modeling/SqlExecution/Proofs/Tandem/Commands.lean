import Mathlib.Data.List.Forall2
import SqlExecution.Proofs.CommandLife
import SqlExecution.Proofs.Tandem.Readers

/-! Using a command in tandem. The two runs give their executions requests that are bound alike, and
do the same otherwise; they get the same answers, but for the commands behind their readers. -/

namespace SqlExecution

variable {σ : Type}

namespace CommandUse

/-- The same use, but for requests that are related. -/
inductive Paired (R : Request σ → Request σ → Prop) : CommandUse σ → CommandUse σ → Prop
  | nonQuery (mode : Mode) {r r' : Request σ} (requests : R r r') :
    Paired R (.nonQuery mode r) (.nonQuery mode r')
  | scalar (mode : Mode) {r r' : Request σ} (requests : R r r') :
    Paired R (.scalar mode r) (.scalar mode r')
  | reader (mode : Mode) {r r' : Request σ} (requests : R r r') :
    Paired R (.reader mode r) (.reader mode r')
  | populate (s : Statement) : Paired R (.populate s) (.populate s)
  | read (mode : Mode) : Paired R (.read mode) (.read mode)
  | nextResult (mode : Mode) : Paired R (.nextResult mode) (.nextResult mode)
  | getValue (ordinal : Nat) : Paired R (.getValue ordinal) (.getValue ordinal)
  | isNull (ordinal : Nat) : Paired R (.isNull ordinal) (.isNull ordinal)
  | columnName (ordinal : Nat) : Paired R (.columnName ordinal) (.columnName ordinal)
  | dispose (mode : Mode) : Paired R (.dispose mode) (.dispose mode)
  | drop : Paired R .drop .drop

/-- The statement of the command after the use. -/
def restated (s : Statement) : CommandUse σ → Statement
  | populate s => s
  | _ => s

/-- Two courses of uses that go together, with requests that are related for the statement that the
command has at that point. -/
inductive Parallel (R : Statement → Request σ → Request σ → Prop) :
    Statement → List (CommandUse σ) → List (CommandUse σ) → Prop
  | nil (s : Statement) : Parallel R s [] []
  | cons {s : Statement} {use use' : CommandUse σ} {uses uses' : List (CommandUse σ)}
    (paired : use.Paired (R s) use') (rest : Parallel R (use.restated s) uses uses') :
    Parallel R s (use :: uses) (use' :: uses')

theorem Paired.mono {R Q : Request σ → Request σ → Prop} (weaker : ∀ r r', R r r' → Q r r')
    {use use' : CommandUse σ} (paired : use.Paired R use') : use.Paired Q use' := by
  cases paired with
  | nonQuery mode requests => exact .nonQuery mode (weaker _ _ requests)
  | scalar mode requests => exact .scalar mode (weaker _ _ requests)
  | reader mode requests => exact .reader mode (weaker _ _ requests)
  | populate s => exact .populate s
  | read mode => exact .read mode
  | nextResult mode => exact .nextResult mode
  | getValue ordinal => exact .getValue ordinal
  | isNull ordinal => exact .isNull ordinal
  | columnName ordinal => exact .columnName ordinal
  | dispose mode => exact .dispose mode
  | drop => exact .drop

theorem Parallel.mono {R Q : Statement → Request σ → Request σ → Prop}
    (weaker : ∀ s r r', R s r r' → Q s r r') {s : Statement} {uses uses' : List (CommandUse σ)}
    (parallel : Parallel R s uses uses') : Parallel Q s uses uses' := by
  induction parallel with
  | nil s => exact .nil s
  | cons paired _ rest => exact .cons (paired.mono (weaker _)) rest

end CommandUse

/-- Use a command one time after the other. -/
def Command.run [Driver σ] :
    List (CommandUse σ) → Command σ → Engine σ (List (Answer σ) × Command σ)
  | [], c => return ([], c)
  | use :: uses, c => do
    let (answer, c) ← use.perform c
    let (answers, c) ← run uses c
    return (answer :: answers, c)

namespace Tandem

/-- A command of the two runs. -/
structure Commands (t : Tandem σ) (c c' : Command σ) : Prop where
  statement : c'.statement = c.statement
  reader : Option.Rel t.Readers c.reader c'.reader

/-- The answers are the same, but for the commands behind a reader. -/
inductive Replies (t : Tandem σ) : Answer σ → Answer σ → Prop
  | bound {o o' : Outcome (DataReader σ)} (ends : SameEnd t.Readers o o') :
    Replies t (.bound o) (.bound o')
  | same (answer : Answer σ) : Replies t answer answer

/-- The two commands were used and answered alike; the statement is known. -/
structure Used (t : Tandem σ) (s : Statement) (x x' : Answer σ × Command σ) : Prop where
  replies : t.Replies x.1 x'.1
  commands : t.Commands x.2 x'.2
  statement : x.2.statement = s

variable {t : Tandem σ} {c c' : Command σ}

theorem runs_onReader (commands : t.Commands c c')
    {act : DataReader σ → Engine σ (Answer σ × DataReader σ)}
    (acts : ∀ r r', t.Readers r r' → t.Runs t.Uses (act r) (act r')) :
    t.Runs (t.Used c.statement) (c.onReader act) (c'.onReader act) := by
  obtain ⟨statement, reader⟩ := c
  obtain ⟨statement', reader'⟩ := c'
  obtain ⟨same, readers⟩ := commands
  cases same
  cases readers with
  | none => exact .pure ⟨.same _, ⟨rfl, .none⟩, rfl⟩
  | some readers =>
    refine (acts _ _ readers).use fun answer r r' readers => ?_
    exact .pure ⟨.same _, ⟨rfl, .some readers⟩, rfl⟩

variable [Driver σ] (watches : t.Watches) (answers : t.Answers) (ever : ∀ info, t.infos info)
include watches answers ever

section Executing

variable {s : Statement} (mode : Mode) {r r' : Request σ} (requests : t.Requests s r r')
include requests

theorem tries_executeOnce {α : Type} {shape : Shape σ α} (shapes : t.Shapes shape) :
    t.Tries Eq (s.executeOnce shape mode r) (s.executeOnce shape mode r') := by
  rw [Statement.executeOnce_eq, Statement.executeOnce_eq]
  refine (tries_execute watches answers shapes requests ever mode).bind fun x x' executions => ?_
  have same : r'.connection = r.connection := by rw [requests.same]
  exact tries_concluding watches answers mode same executions.output executions.commands

theorem tries_openCursor :
    t.Tries t.Bindings (s.openCursor mode r) (s.openCursor mode r') := by
  rw [Statement.openCursor_eq, Statement.openCursor_eq]
  exact (tries_execute watches answers (shapes_reader answers) requests ever mode).bind
    fun _ _ executions => tries_delivering watches answers mode requests executions

theorem runs_executeReader (commands : t.Commands c c') (here : c.statement = s) :
    t.Runs (fun x x' => SameEnd t.Readers x.1 x'.1 ∧ t.Commands x.2 x'.2 ∧ x.2.statement = s)
      (c.executeReader mode r) (c'.executeReader mode r') := by
  obtain ⟨statement, reader⟩ := c
  obtain ⟨statement', reader'⟩ := c'
  obtain ⟨same, readers⟩ := commands
  cases same
  cases here
  refine Runs.bind (tries_openCursor watches answers ever mode requests) fun o o' ends => ?_
  cases o <;> cases o'
  · exact .pure ⟨ends, ⟨rfl, readers⟩, rfl⟩
  · cases ends
  · cases ends
  · have previous : t.Readers (reader.getD {}) (reader'.getD {}) := by
      cases readers with
      | none => exact .fresh
      | some readers => exact readers
    refine (runs_rebind watches answers ever mode previous ends).bind fun x x' readers => ?_
    exact .pure ⟨readers, ⟨rfl, .some readers⟩, rfl⟩

end Executing

theorem runs_perform (commands : t.Commands c c') {use use' : CommandUse σ}
    (paired : use.Paired (t.Requests c.statement) use') :
    t.Runs (t.Used (use.restated c.statement)) (use.perform c) (use'.perform c') := by
  obtain ⟨statement, reader⟩ := c
  obtain ⟨statement', reader'⟩ := c'
  obtain ⟨same, readers⟩ := commands
  cases same
  have commands : t.Commands ⟨statement, reader⟩ ⟨statement, reader'⟩ := ⟨rfl, readers⟩
  cases paired with
  | nonQuery mode requests =>
    refine Runs.bind (tries_executeOnce watches answers ever mode requests
      (shapes_nonQuery answers)) fun o o' ends => ?_
    cases sameEnd_eq ends
    exact .pure ⟨.same _, commands, rfl⟩
  | scalar mode requests =>
    refine Runs.bind (tries_executeOnce watches answers ever mode requests
      (shapes_scalar answers)) fun o o' ends => ?_
    cases sameEnd_eq ends
    exact .pure ⟨.same _, commands, rfl⟩
  | reader mode requests =>
    refine (runs_executeReader watches answers ever mode requests commands rfl).bind
      fun x x' ends => ?_
    exact .pure ⟨.bound ends.1, ends.2.1, ends.2.2⟩
  | populate s => exact .pure ⟨.same _, ⟨rfl, readers⟩, rfl⟩
  | read mode =>
    refine runs_onReader commands fun r r' readers => ?_
    exact (runs_read watches answers readers mode).use fun o r r' readers => .pure ⟨rfl, readers⟩
  | nextResult mode =>
    refine runs_onReader commands fun r r' readers => ?_
    exact (runs_nextResult watches answers readers mode).use fun o r r' readers =>
      .pure ⟨rfl, readers⟩
  | getValue ordinal =>
    refine runs_onReader commands fun r r' readers => ?_
    exact (runs_readerGetValue watches answers readers ordinal).andThen fun _ =>
      .pure ⟨rfl, readers⟩
  | isNull ordinal =>
    refine runs_onReader commands fun r r' readers => ?_
    exact (runs_isNull watches answers readers ordinal).andThen fun _ => .pure ⟨rfl, readers⟩
  | columnName ordinal =>
    refine runs_onReader commands fun r r' readers => ?_
    exact (runs_readerColumnName watches answers readers ordinal).andThen fun _ =>
      .pure ⟨rfl, readers⟩
  | dispose mode =>
    refine runs_onReader commands fun r r' readers => ?_
    exact (runs_dispose watches answers ever mode readers).use fun o r r' readers =>
      .pure ⟨rfl, readers⟩
  | drop =>
    have dropped : t.Runs Eq (Command.mk statement reader).drop
        (Command.mk statement reader').drop := by
      cases readers with
      | none => exact .pure rfl
      | some readers => exact runs_drop watches answers ever readers
    exact dropped.andThen fun _ => .pure ⟨.same _, ⟨rfl, .none⟩, rfl⟩

theorem runs_uses {uses uses' : List (CommandUse σ)} (commands : t.Commands c c')
    (parallel : CommandUse.Parallel t.Requests c.statement uses uses') :
    t.Runs (fun x x' => List.Forall₂ t.Replies x.1 x'.1 ∧ t.Commands x.2 x'.2) (c.run uses)
      (c'.run uses') := by
  generalize here : c.statement = s at parallel
  induction parallel generalizing c c' with
  | nil _ => exact .pure ⟨.nil, commands⟩
  | cons paired _ rest =>
    subst here
    refine (runs_perform watches answers ever commands paired).bind fun x x' used => ?_
    refine (rest used.commands used.statement).bind fun y y' later => ?_
    exact .pure ⟨.cons used.replies later.1, later.2⟩

end Tandem

end SqlExecution
