import SqlExecution.Program
import SqlExecution.Proofs.CommandRelease
import SqlExecution.Proofs.DisposalReports

/-! The life of a command that is executed again and again. Its reader is bound by every execution
that succeeds, and what it is bound to is let go once: by the first use that disposes the reader,
drops the command or executes it for a reader again. -/

namespace SqlExecution

variable {σ α : Type}

open Session

/-- What is done with a command and its reader. -/
inductive CommandUse (σ : Type) where
  | populate (s : Statement)
  | nonQuery (mode : Mode) (r : Request σ)
  | scalar (mode : Mode) (r : Request σ)
  | reader (mode : Mode) (r : Request σ)
  | read (mode : Mode)
  | nextResult (mode : Mode)
  | getValue (ordinal : Nat)
  | isNull (ordinal : Nat)
  | columnName (ordinal : Nat)
  | dispose (mode : Mode)
  /-- The command goes out of scope. -/
  | drop

namespace Command

def holding? (c : Command σ) : Option Holding := c.reader.bind (·.holding?)

/-- Act on the command's reader, and keep what becomes of it. -/
def onReader (act : DataReader σ → Engine σ (Answer σ × DataReader σ)) (c : Command σ) :
    Engine σ (Answer σ × Command σ) :=
  match c.reader with
  | none => return (.noReader, c)
  | some r => do
    let (answer, r) ← act r
    return (answer, { c with reader := some r })

end Command

def Outcome.isTrue : Outcome Bool → Bool
  | .ok true => true
  | _ => false

/-- What the reader holds that was returned. -/
def Answer.holding? : Answer σ → Option Holding
  | .bound (.ok r) => r.holding?
  | _ => none

namespace CommandUse

/-- The reader is bound to new results. -/
def binds : Answer σ → Bool
  | .bound (.ok _) => true
  | _ => false

/-- How the use lets go of what the reader holds, if it does. -/
def vacates : CommandUse σ → Answer σ → Option Mode
  | reader mode _, .bound (.ok _) => some mode
  | dispose mode, _ => some mode
  | drop, _ => some .blocking
  | _, _ => none

/-- The use went on to a row. -/
def advances : CommandUse σ → Answer σ → Bool
  | read _, .flag o => o.isTrue
  | _, _ => false

/-- What a reader answers that is not open. -/
def refusal? (r : DataReader σ) : CommandUse σ → Option (Answer σ)
  | read _ => some (.flag (.error (.error r.notOpen)))
  | nextResult _ => some (.flag (.error (.error r.notOpen)))
  | getValue _ => some (.value (.error (.error r.notOpen)))
  | isNull _ => some (.flag (.error (.error r.notOpen)))
  | columnName _ => some (.name (.error (.error r.notOpen)))
  | dispose _ => some (.done (.ok ()))
  | _ => none

variable [Driver σ]

def perform : CommandUse σ → Command σ → Engine σ (Answer σ × Command σ)
  | populate s, c => return (.nothing, c.populate s)
  | nonQuery mode r, c => do
    return (.affected (← (c.statement.executeNonQuery mode r).observe), c)
  | scalar mode r, c => do
    return (.scalar (← (c.statement.executeScalar mode r).observe), c)
  | reader mode r, c => do
    let (outcome, c) ← c.executeReader mode r
    return (.bound outcome, c)
  | read mode, c => c.onReader fun r => do
    let (outcome, r) ← r.read mode
    return (.flag outcome, r)
  | nextResult mode, c => c.onReader fun r => do
    let (outcome, r) ← r.nextResult mode
    return (.flag outcome, r)
  | getValue ordinal, c => c.onReader fun r => do
    return (.value (.ofResult (← r.getValue ordinal)), r)
  | isNull ordinal, c => c.onReader fun r => do
    return (.flag (.ofResult (← r.isNull ordinal)), r)
  | columnName ordinal, c => c.onReader fun r => do
    return (.name (.ofResult (← r.columnName ordinal)), r)
  | dispose mode, c => c.onReader fun r => do
    let (outcome, r) ← r.dispose mode
    return (.done outcome, r)
  | drop, c => do
    c.drop
    return (.nothing, { c with reader := none })

/-- The session once the execution is through, if the use is one; what the reader held before is
let go after it. -/
def overture (use : CommandUse σ) (c : Command σ) (s : Session σ) : Session σ :=
  match use with
  | nonQuery mode r => ((c.statement.executeNonQuery mode r).observe s).2
  | scalar mode r => ((c.statement.executeScalar mode r).observe s).2
  | reader mode r => ((c.statement.openCursor mode r).observe s).2
  | _ => s

end CommandUse

namespace DataReader

/-- All that the reader holds is released, and the number of rows that were read is reported. -/
structure LetGo (r : DataReader σ) (mode : Mode) (s t : Session σ) : Prop where
  released : match r.holding? with
    | some h => h.Released mode s t
    | none => s.Issues [] t
  reported : s.Reports (List.replicate (r.hearers s.traceLimit) (r.readCount : Int)) t

variable [Driver σ]

theorem letGo_dispose (mode : Mode) (r : DataReader σ) (s : Session σ) :
    r.LetGo mode s (r.dispose mode s).2 ∧ (r.dispose mode s).1.2.holding? = none := by
  have reported := r.dispose_reports mode s
  cases holds : r.holding? with
  | none =>
    have spent := r.dispose_of_none mode holds s
    refine ⟨⟨?_, reported⟩, ?_⟩
    · rw [holds, spent]
      exact .refl s
    · rw [spent]
      exact holds
  | some h =>
    obtain ⟨released, spent⟩ := r.dispose_of_holding mode holds s
    exact ⟨⟨by rwa [holds], reported⟩, spent⟩

theorem letGo_drop (r : DataReader σ) (s : Session σ) : r.LetGo .blocking s (r.drop s).2 := by
  obtain ⟨letGo, _⟩ := r.letGo_dispose .blocking s
  have quiet := r.drop_issues s
  refine ⟨?_, r.drop_reports s⟩
  have released := letGo.released
  cases holds : r.holding? with
  | none =>
    rw [holds] at released
    exact released.trans quiet
  | some h =>
    rw [holds] at released
    exact released.before quiet

theorem letGo_rebind (mode : Mode) (b : ReaderBinding σ) (r : DataReader σ) (s : Session σ) :
    r.LetGo mode s (r.rebind mode b s).2 := by
  obtain ⟨letGo, _⟩ := r.letGo_dispose mode s
  have quiet := r.rebind_issues mode b s
  refine ⟨?_, r.rebind_reports mode b s⟩
  have released := letGo.released
  cases holds : r.holding? with
  | none =>
    rw [holds] at released
    exact released.trans quiet
  | some h =>
    rw [holds] at released
    exact released.before quiet

omit [Driver σ] in
theorem readCount_counted (r : DataReader σ) (o : Outcome Bool) :
    (r.counted o).readCount = r.readCount + if o.isTrue then 1 else 0 := by
  rcases o with failure | _ | _ <;> rfl

omit [Driver σ] in
theorem readCount_withBuffer (r : DataReader σ) (b : BufferedReader) :
    (r.withBuffer b).readCount = r.readCount := by
  unfold withBuffer
  split <;> rfl

omit [Driver σ] in
theorem readCount_retired (r : DataReader σ) : r.retired.readCount = r.readCount := by
  unfold retired
  split <;> rfl

end DataReader

namespace Command

variable {c : Command σ} {act : DataReader σ → Engine σ (Answer σ × DataReader σ)}

theorem onReader_of_none (unread : c.reader = none) (s : Session σ) :
    c.onReader act s = ((.noReader, c), s) := by
  unfold onReader
  rw [unread]
  rfl

theorem onReader_of_some {r : DataReader σ} (reader : c.reader = some r) (s : Session σ) :
    c.onReader act s =
      (((act r s).1.1, { c with reader := some (act r s).1.2 }), (act r s).2) := by
  unfold onReader
  rw [reader]
  rfl

theorem with_reader {r : DataReader σ} (reader : c.reader = some r) :
    { c with reader := some r } = c := by
  cases c
  cases reader
  rfl

end Command

namespace CommandUse

variable [Driver σ]

/-- The use of the reader that the use of the command is, if it leaves the reader what it holds. -/
def reading? : CommandUse σ → Option (ReaderUse σ)
  | read mode => some (.read mode)
  | nextResult mode => some (.nextResult mode)
  | getValue ordinal => some (.getValue ordinal)
  | isNull ordinal => some (.isNull ordinal)
  | columnName ordinal => some (.columnName ordinal)
  | _ => none

omit [Driver σ] in
theorem releasing_reading {use : CommandUse σ} {u : ReaderUse σ} (reading : use.reading? = some u) :
    u.releasing? = none := by
  cases use <;> cases reading <;> rfl

theorem perform_reading {use : CommandUse σ} {u : ReaderUse σ} (reading : use.reading? = some u)
    (c : Command σ) (s : Session σ) :
    (use.perform c s).2 = (c.reader.map fun r => (u.perform r s).2).getD s := by
  obtain ⟨statement, reader⟩ := c
  cases use <;> cases reading <;> cases reader <;> rfl

theorem perform_dispose_of_none {c : Command σ} (unread : c.reader = none) (mode : Mode)
    (s : Session σ) : (dispose mode).perform c s = ((.noReader, c), s) :=
  Command.onReader_of_none unread s

theorem perform_dispose_of_some {c : Command σ} {r : DataReader σ} (reader : c.reader = some r)
    (mode : Mode) (s : Session σ) :
    (dispose mode).perform c s =
      ((.done (r.dispose mode s).1.1, { c with reader := some (r.dispose mode s).1.2 }),
        (r.dispose mode s).2) := Command.onReader_of_some reader s

/-- How a use goes that leaves the reader what it holds: executions look after their own commands,
and what is done with the reader only reads from its cursor. -/
def Spares (use : CommandUse σ) (c : Command σ) (s t : Session σ) : Prop :=
  match use with
  | nonQuery mode r => Statement.Settled mode r.connection
      ((c.statement.creation .nonQuery mode r).observe s).1
      ((c.statement.opening .nonQuery mode r).observe s).1.isOk s t
  | scalar mode r => Statement.Settled mode r.connection
      ((c.statement.creation .scalar mode r).observe s).1
      ((c.statement.opening .scalar mode r).observe s).1.isOk s t
  | reader mode r => Statement.Settled mode r.connection
      ((c.statement.creation .reader mode r).observe s).1
      ((c.statement.opening .reader mode r).observe s).1.isOk s t
  | _ => s.Within (Holding.Reads c.holding?) t

/-- What a use does to what the reader holds. -/
structure Goes (use : CommandUse σ) (c : Command σ) (s : Session σ) (answer : Answer σ)
    (c' : Command σ) (t : Session σ) : Prop where
  stays (keeping : use.vacates answer = none) :
    c'.holding? = c.holding? ∧ answer.holding? = none ∧ use.Spares c s t
  vacated {mode : Mode} (vacating : use.vacates answer = some mode) :
    c'.holding? = answer.holding? ∧ (c.reader.getD {}).LetGo mode (use.overture c s) t
  /-- The reader that is returned holds a command of its own and one open of the connection that
  the execution was asked for. -/
  bound {mode : Mode} {r : Request σ} (is : use = reader mode r) (binding : binds answer = true) :
    ∃ (h : Holding) (d : NativeCommand), answer.holding? = some h ∧ h.connection = r.connection ∧
      h.command.Same d ∧ d.Held r.connection true s (use.overture c s)
  rows {r' : DataReader σ} (reads : c'.reader = some r') :
    if binds answer then r'.readCount = 0
    else ∃ r, c.reader = some r ∧
      r'.readCount = r.readCount + if use.advances answer then 1 else 0

theorem goes_of_keeping {use : CommandUse σ} {c c' : Command σ} {s t : Session σ}
    {answer : Answer σ} (keeping : use.vacates answer = none) (unbound : binds answer = false)
    (still : use.advances answer = false) (same : c'.reader = c.reader)
    (spares : use.Spares c s t) : use.Goes c s answer c' t where
  stays _ := by
    refine ⟨by rw [Command.holding?, Command.holding?, same], ?_, spares⟩
    unfold Answer.holding?
    split
    · cases unbound
    · rfl
  vacated vacating := by
    rw [keeping] at vacating
    cases vacating
  bound _ binding := by
    rw [unbound] at binding
    cases binding
  rows {r'} reads := by
    rw [unbound, still]
    exact ⟨r', same ▸ reads, rfl⟩

theorem goes_reading {use : CommandUse σ} {u : ReaderUse σ} (reading : use.reading? = some u)
    {act : DataReader σ → Engine σ (Answer σ × DataReader σ)} {c : Command σ}
    (performs : use.perform c = c.onReader act)
    (acts : ∀ r s, ((act r s).1.2, (act r s).2) = u.perform r s)
    (counts : ∀ r s, (act r s).1.2.readCount =
      r.readCount + if use.advances (act r s).1.1 then 1 else 0)
    (unbound : ∀ r s, binds (act r s).1.1 = false) (s : Session σ) :
    use.Goes c s (use.perform c s).1.1 (use.perform c s).1.2 (use.perform c s).2 := by
  have keeping := releasing_reading reading
  have spared : ∀ {t}, s.Within (Holding.Reads c.holding?) t → use.Spares c s t := fun within => by
    cases use <;> first | exact within | cases reading
  have lasting : ∀ answer, binds answer = false → use.vacates answer = none := fun answer _ => by
    cases use <;> first | rfl | cases reading
  rw [performs]
  cases reader : c.reader with
  | none =>
    rw [Command.onReader_of_none reader]
    have still : use.advances (.noReader : Answer σ) = false := by
      cases use <;> rfl
    exact goes_of_keeping (lasting _ rfl) rfl still rfl (spared (.refl s))
  | some r =>
    rw [Command.onReader_of_some reader]
    have kept := ReaderUse.perform_keeps keeping r s
    rw [← acts r s] at kept
    obtain ⟨within, holding⟩ := kept
    have held : c.holding? = r.holding? := by rw [Command.holding?, reader]; rfl
    rw [← held] at within holding
    refine ⟨fun _ => ⟨holding, ?_, spared within⟩, fun vacating => ?_, fun is _ => ?_,
      fun reads => ?_⟩
    · have unbound := unbound r s
      unfold Answer.holding?
      split
      · next is => rw [is] at unbound; cases unbound
      · rfl
    · rw [lasting _ (unbound r s)] at vacating
      cases vacating
    · rw [is] at reading
      cases reading
    · cases reads
      rw [unbound]
      exact ⟨r, reader, counts r s⟩

theorem goes_vacating {use : CommandUse σ} {mode : Mode} {c c' : Command σ} {s t : Session σ}
    {answer : Answer σ} (vacating : use.vacates answer = some mode)
    (unbound : binds answer = false) (here : use.overture c s = s)
    (letGo : (c.reader.getD {}).LetGo mode s t) (spent : c'.holding? = none)
    (rows : ∀ r', c'.reader = some r' → ∃ r, c.reader = some r ∧ r'.readCount = r.readCount)
    (still : use.advances answer = false) : use.Goes c s answer c' t := by
  have unheld : answer.holding? = none := by
    unfold Answer.holding?
    split
    · cases unbound
    · rfl
  refine ⟨fun keeping => ?_, fun {mode'} vacates => ?_, fun _ binding => ?_, fun {r'} reads => ?_⟩
  · rw [vacating] at keeping
    cases keeping
  · rw [vacating] at vacates
    cases vacates
    rw [unheld, here]
    exact ⟨spent, letGo⟩
  · rw [unbound] at binding
    cases binding
  · rw [unbound, still]
    exact rows r' reads

theorem perform_goes (use : CommandUse σ) (c : Command σ) (s : Session σ) :
    use.Goes c s (use.perform c s).1.1 (use.perform c s).1.2 (use.perform c s).2 := by
  cases use with
  | populate statement => exact goes_of_keeping rfl rfl rfl rfl (.refl s)
  | nonQuery mode r =>
    exact goes_of_keeping rfl rfl rfl rfl
      (Statement.executeOnce_settled Shape.nonQuery_faithful c.statement mode r s)
  | scalar mode r =>
    exact goes_of_keeping rfl rfl rfl rfl
      (Statement.executeOnce_settled Shape.scalar_faithful c.statement mode r s)
  | reader mode r =>
    have ends : (CommandUse.reader mode r).perform c s =
        ((.bound (c.executeReader mode r s).1.1, (c.executeReader mode r s).1.2),
          (c.executeReader mode r s).2) := rfl
    rw [ends, Command.executeReader_apply]
    rcases opens : (c.statement.openCursor mode r).observe s with ⟨failure | b, t⟩
    · exact goes_of_keeping rfl rfl rfl rfl (Statement.openCursor_settled opens)
    · obtain ⟨d, _, _, _, same, connection, holds⟩ := Statement.openCursor_held opens
      have overture : (CommandUse.reader mode r).overture c s = t := by
        rw [CommandUse.overture, opens]
      -- The reader is rebound only here, after the new cursor was opened: what it held is let go
      -- from `t` on, while the new binding is accounted for from `s` to `t`.
      refine ⟨fun keeping => (by cases keeping), fun {mode'} vacating => ?_, fun is _ => ?_,
        fun reads => ?_⟩
      · cases vacating
        rw [overture]
        exact ⟨rfl, DataReader.letGo_rebind mode b _ t⟩
      · cases is
        rw [overture]
        exact ⟨b.holding, d, rfl, connection, same, holds⟩
      · cases reads
        rfl
  | read mode =>
    refine goes_reading rfl rfl (fun _ _ => rfl) (fun r u => ?_) (fun _ _ => rfl) s
    change (r.read mode u).1.2.readCount =
      r.readCount + if (r.read mode u).1.1.isTrue then 1 else 0
    unfold DataReader.read
    rcases r.cursor? with _ | k | b
    · rfl
    · exact r.readCount_counted _
    · exact (DataReader.readCount_counted _ _).trans (by rw [DataReader.readCount_withBuffer]; rfl)
  | nextResult mode =>
    refine goes_reading rfl rfl (fun _ _ => rfl) (fun r u => ?_) (fun _ _ => rfl) s
    change (r.nextResult mode u).1.2.readCount = r.readCount
    unfold DataReader.nextResult
    rcases r.cursor? with _ | k | b
    · rfl
    · rfl
    · exact r.readCount_withBuffer _
  | getValue ordinal =>
    exact goes_reading rfl rfl (fun _ _ => rfl) (fun _ _ => rfl) (fun _ _ => rfl) s
  | isNull ordinal =>
    exact goes_reading rfl rfl (fun _ _ => rfl) (fun _ _ => rfl) (fun _ _ => rfl) s
  | columnName ordinal =>
    exact goes_reading rfl rfl (fun _ _ => rfl) (fun _ _ => rfl) (fun _ _ => rfl) s
  | dispose mode =>
    cases reader : c.reader with
    | none =>
      rw [perform_dispose_of_none reader]
      have spent : c.holding? = none := by rw [Command.holding?, reader]; rfl
      have letGo := (DataReader.letGo_dispose mode ({} : DataReader σ) s).1
      refine goes_vacating rfl rfl rfl ?_ spent (fun r' reads => ⟨r', reads, rfl⟩) rfl
      rw [reader]
      exact letGo
    | some r =>
      rw [perform_dispose_of_some reader]
      obtain ⟨letGo, spent⟩ := r.letGo_dispose mode s
      refine goes_vacating rfl rfl rfl ?_ spent (fun r' reads => ⟨r, reader, ?_⟩) rfl
      · rw [reader]
        exact letGo
      · cases reads
        unfold DataReader.dispose
        rcases phase : r.phase with _ | b | _
        · rfl
        · exact r.readCount_retired
        · rfl
  | drop =>
    have ends : CommandUse.drop.perform c s =
        ((.nothing, { c with reader := none }), (c.drop s).2) := rfl
    rw [ends]
    refine goes_vacating rfl rfl rfl ?_ rfl (fun r' reads => by cases reads) rfl
    unfold Command.drop
    cases c.reader with
    | none => exact (DataReader.letGo_drop ({} : DataReader σ) s)
    | some r => exact r.letGo_drop s

end CommandUse

end SqlExecution
