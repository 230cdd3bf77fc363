import SqlExecution.Proofs.CommandOperations
import SqlExecution.Proofs.EventAccounts
import SqlExecution.Proofs.Tandem.Transactions

/-! The events of executions over whole programs. Every operation begins at most one execution and
disposes at most one reader, in this order, and it tells of nothing but these two. -/

namespace SqlExecution

variable {σ α : Type}

open Session Tandem

namespace Command

/-- The execution that the command's reader is bound to. -/
def execution? (c : Command σ) : Option ExecutionInfo := c.reader.bind (·.execution?)

end Command

namespace CommandUse

variable [Driver σ]

/-- The execution that the use begins, if it begins one. -/
def begins (c : Command σ) (s : Session σ) : CommandUse σ → Option ExecutionInfo
  | nonQuery mode r => c.statement.begins .nonQuery mode r s
  | scalar mode r => c.statement.begins .scalar mode r s
  | reader mode r => c.statement.begins .reader mode r s
  | _ => none

/-- The reader that the use disposes, if it disposes one. -/
def disposes (use : CommandUse σ) (c : Command σ) (s : Session σ) : Option (DataReader σ) :=
  if (use.vacates (use.perform c s).1.1).isSome then c.reader else none

end CommandUse

/-- What becomes of the events of a reader that is disposed. -/
def Session.Disposes (s : Session σ) (r : Option (DataReader σ)) (t : Session σ) : Prop :=
  s.Accounts (r.bind (·.execution?)) (∃ x ∈ r, x.Announces s.traceLimit) t

namespace Session

variable {s t : Session σ}

theorem Executes.of_silent (silent : s.Silent t) : s.Executes none t := ⟨silent, by simp⟩

theorem Disposes.of_silent (silent : s.Silent t) : s.Disposes none t := silent

theorem Disposes.of_accounts {r : DataReader σ}
    (accounts : s.Accounts r.execution? (r.Announces s.traceLimit) t) : s.Disposes (some r) t := by
  unfold Disposes
  simpa using accounts

end Session

namespace DataReader

theorem execution_retired (r : DataReader σ) : r.retired.execution? = none := by
  unfold retired execution?
  rcases phase : r.phase with _ | b | _ <;> simp [ReaderPhase.binding?, phase]

theorem execution_dispose [Driver σ] (mode : Mode) (r : DataReader σ) (s : Session σ) :
    (r.dispose mode s).1.2.execution? = none := by
  unfold dispose
  rcases phase : r.phase with _ | b | _
  · exact execution_of_unbound (by simp [phase])
  · exact r.execution_retired
  · exact execution_of_unbound (by simp [phase])

/-- Something about readers that no count of rows and no place in a buffer matters to. -/
structure Lasting (f : DataReader σ → α) : Prop where
  counted (r : DataReader σ) (o : Outcome Bool) : f (r.counted o) = f r
  withBuffer (r : DataReader σ) (b : BufferedReader) : f (r.withBuffer b) = f r

theorem lasting_execution : Lasting (execution? : DataReader σ → Option ExecutionInfo) where
  counted r o := by
    unfold counted
    split <;> rfl
  withBuffer r b := by
    unfold withBuffer execution?
    cases phase : r.phase <;> simp [ReaderPhase.binding?, phase]

namespace Lasting

variable [Driver σ] {f : DataReader σ → α} (lasting : Lasting f)
include lasting

theorem read (mode : Mode) (r : DataReader σ) (s : Session σ) : f (r.read mode s).1.2 = f r := by
  unfold DataReader.read
  rcases r.cursor? with _ | c | b
  · rfl
  · exact lasting.counted r _
  · exact (lasting.counted (r.withBuffer _) _).trans (lasting.withBuffer r _)

theorem nextResult (mode : Mode) (r : DataReader σ) (s : Session σ) :
    f (r.nextResult mode s).1.2 = f r := by
  unfold DataReader.nextResult
  rcases r.cursor? with _ | c | b
  · rfl
  · rfl
  · exact lasting.withBuffer r _

theorem drainRows (n : Nat) (r : DataReader σ) (s : Session σ) :
    f (r.drainRows n s).1.2 = f r := by
  induction n generalizing r s with
  | zero => rfl
  | succ n ih =>
    have read := lasting.read .blocking r s
    unfold DataReader.drainRows
    rw [Engine.bind_apply]
    generalize r.read .blocking s = reads at read ⊢
    obtain ⟨⟨failure | _ | _, r'⟩, t⟩ := reads
    · exact read
    · exact read
    · dsimp only
      rw [Engine.bind_apply, Engine.bind_apply]
      generalize r'.cells _ _ = cells
      obtain ⟨e | row, u⟩ := cells
      · exact read
      · exact (ih r' u).trans read

theorem drainSets (rowBound n : Nat) (r : DataReader σ) (s : Session σ) :
    f (r.drainSets rowBound n s).1.2 = f r := by
  induction n generalizing r s with
  | zero => rfl
  | succ n ih =>
    have drained := lasting.drainRows rowBound r s
    unfold DataReader.drainSets
    rw [Engine.bind_apply]
    generalize r.drainRows rowBound s = drains at drained ⊢
    obtain ⟨⟨e | rows, r₁⟩, t⟩ := drains
    · exact drained
    · dsimp only
      rw [Engine.bind_apply]
      have next := lasting.nextResult .blocking r₁ t
      generalize r₁.nextResult .blocking t = moves at next ⊢
      obtain ⟨⟨failure | _ | _, r₂⟩, u⟩ := moves
      · exact next.trans drained
      · exact next.trans drained
      · exact (ih r₂ _).trans (next.trans drained)

theorem drain (r : DataReader σ) (s : Session σ) : f (r.drain s).1.2 = f r :=
  lasting.drainSets _ _ r _

end Lasting

end DataReader

namespace ReaderUse

variable [Driver σ]

theorem mute_perform {use : ReaderUse σ} (keeping : use.releasing? = none) (r : DataReader σ) :
    (use.perform r).Mute := by
  have uses : ∀ {α : Type} {m : Engine σ (α × DataReader σ)},
      (∀ t : Tandem σ, t.Watches → t.Answers → t.Readers r r → t.Runs t.Uses m m) →
      (do return (← m).2 : Engine σ (DataReader σ)).Mute := fun runs =>
    .of_runs fun t watches scenes commands =>
      (runs t watches (answers_of_eq scenes commands) (readers_of_eq scenes commands r)).bind
        fun _ _ _ => Runs.pure (V := fun _ _ => True) trivial
  have looks : ∀ {α : Type} {m : Engine σ α},
      (∀ t : Tandem σ, t.Answers → t.Readers r r → t.Watches → t.Runs Eq m m) →
      (do let _ ← m; return r : Engine σ (DataReader σ)).Mute := fun runs =>
    .of_runs fun t watches scenes commands =>
      (runs t (answers_of_eq scenes commands) (readers_of_eq scenes commands r) watches).andThen
        fun _ => .pure rfl
  cases use with
  | read mode => exact uses fun _ watches answers readers => runs_read watches answers readers mode
  | nextResult mode =>
    exact uses fun _ watches answers readers => runs_nextResult watches answers readers mode
  | getValue ordinal =>
    exact looks fun _ answers readers watches => runs_readerGetValue watches answers readers ordinal
  | isNull ordinal =>
    exact looks fun _ answers readers watches => runs_isNull watches answers readers ordinal
  | columnName ordinal =>
    exact looks fun _ answers readers watches =>
      runs_readerColumnName watches answers readers ordinal
  | drain => exact uses fun _ watches answers readers => runs_readerDrain watches answers readers
  | _ => simp [releasing?] at keeping

end ReaderUse

theorem Command.drop_disposes [Driver σ] (c : Command σ) (s : Session σ) :
    s.Disposes c.reader (c.drop s).2 := by
  unfold drop
  cases c.reader with
  | none => exact .of_silent (.refl s)
  | some r => exact .of_accounts (r.drop_accounts s)

namespace CommandUse

variable [Driver σ]

theorem silent_reading {use : CommandUse σ} {u : ReaderUse σ} (reading : use.reading? = some u)
    (c : Command σ) (s : Session σ) : s.Silent (use.perform c s).2 := by
  rw [perform_reading reading]
  cases c.reader with
  | none => exact .refl s
  | some r => exact (ReaderUse.mute_perform (releasing_reading reading) r).speaks (.refl s)

theorem perform_executes (use : CommandUse σ) (c : Command σ) (s : Session σ) :
    s.Executes (use.begins c s) (use.overture c s) := by
  cases use with
  | nonQuery mode r =>
    exact Statement.executeOnce_executes (fun _ => shapes_nonQuery) Shape.nonQuery_plain _ mode r s
  | scalar mode r =>
    exact Statement.executeOnce_executes (fun _ => shapes_scalar) Shape.scalar_plain _ mode r s
  | reader mode r => exact Statement.openCursor_executes _ mode r s
  | _ => exact .of_silent (.refl s)

theorem perform_disposes (use : CommandUse σ) (c : Command σ) (s : Session σ) :
    (use.overture c s).Disposes (use.disposes c s) (use.perform c s).2 := by
  cases use with
  | populate statement => exact .of_silent (.refl s)
  | nonQuery mode r => exact .of_silent (.refl _)
  | scalar mode r => exact .of_silent (.refl _)
  | reader mode r =>
    have ends : (CommandUse.reader mode r).perform c s =
        ((.bound (c.executeReader mode r s).1.1, (c.executeReader mode r s).1.2),
          (c.executeReader mode r s).2) := rfl
    unfold overture disposes
    rw [ends, Command.executeReader_apply]
    dsimp only
    rcases (c.statement.openCursor mode r).observe s with ⟨failure | b, t⟩
    · exact .of_silent (.refl t)
    · -- What is told from `t` on is of the reader before, and so of the execution before.
      have rebound := (c.reader.getD {}).rebind_accounts mode b t
      cases reader : c.reader with
      | none =>
        rw [reader] at rebound
        exact .of_silent rebound
      | some r =>
        rw [reader] at rebound
        exact .of_accounts rebound
  | read mode => exact .of_silent (silent_reading (u := .read mode) rfl c s)
  | nextResult mode => exact .of_silent (silent_reading (u := .nextResult mode) rfl c s)
  | getValue ordinal => exact .of_silent (silent_reading (u := .getValue ordinal) rfl c s)
  | isNull ordinal => exact .of_silent (silent_reading (u := .isNull ordinal) rfl c s)
  | columnName ordinal => exact .of_silent (silent_reading (u := .columnName ordinal) rfl c s)
  | dispose mode =>
    cases reader : c.reader with
    | none =>
      have ends := perform_dispose_of_none reader mode s
      have unread : (CommandUse.dispose mode).disposes c s = none := by
        unfold disposes
        rw [ends, reader]
        rfl
      rw [unread, ends]
      exact .of_silent (.refl s)
    | some r =>
      have ends := perform_dispose_of_some reader mode s
      have disposed : (CommandUse.dispose mode).disposes c s = some r := by
        unfold disposes
        rw [ends, reader]
        rfl
      rw [disposed, ends]
      exact .of_accounts (r.dispose_accounts mode s)
  | drop =>
    have ends : CommandUse.drop.perform c s =
        ((.nothing, { c with reader := none }), (c.drop s).2) := rfl
    have disposed : CommandUse.drop.disposes c s = c.reader := by
      unfold disposes
      rw [ends]
      rfl
    rw [disposed, ends]
    exact c.drop_disposes s

theorem execution_reading {use : CommandUse σ} {c : Command σ}
    {act : DataReader σ → Engine σ (Answer σ × DataReader σ)}
    (performs : use.perform c = c.onReader act)
    (keeps : ∀ r s, (act r s).1.2.execution? = r.execution?) (s : Session σ) :
    (use.perform c s).1.2.execution? = c.execution? := by
  rw [performs]
  cases reader : c.reader with
  | none => rw [Command.onReader_of_none reader]
  | some r =>
    rw [Command.onReader_of_some reader, Command.execution?, Command.execution?, reader]
    exact keeps r s

theorem perform_bound (use : CommandUse σ) (c : Command σ) (s : Session σ) {info : ExecutionInfo}
    (bound : (use.perform c s).1.2.execution? = some info) :
    c.execution? = some info ∨ use.begins c s = some info := by
  cases use with
  | populate statement => exact .inl bound
  | nonQuery mode r => exact .inl bound
  | scalar mode r => exact .inl bound
  | reader mode r =>
    have ends : ((CommandUse.reader mode r).perform c s).1.2 = (c.executeReader mode r s).1.2 := rfl
    rw [ends, Command.executeReader_apply] at bound
    rcases opens : (c.statement.openCursor mode r).observe s with ⟨failure | b, t⟩
    all_goals rw [opens] at bound
    · exact .inl bound
    · cases bound
      exact .inr (Statement.openCursor_begins opens)
  | read mode =>
    rw [execution_reading rfl (DataReader.lasting_execution.read mode)] at bound
    exact .inl bound
  | nextResult mode =>
    rw [execution_reading rfl (DataReader.lasting_execution.nextResult mode)] at bound
    exact .inl bound
  | getValue ordinal => exact .inl ((execution_reading rfl (fun _ _ => rfl) s).symm.trans bound)
  | isNull ordinal => exact .inl ((execution_reading rfl (fun _ _ => rfl) s).symm.trans bound)
  | columnName ordinal => exact .inl ((execution_reading rfl (fun _ _ => rfl) s).symm.trans bound)
  | dispose mode =>
    cases reader : c.reader with
    | none =>
      rw [perform_dispose_of_none reader] at bound
      exact .inl bound
    | some r =>
      rw [perform_dispose_of_some reader] at bound
      cases (r.execution_dispose mode s).symm.trans bound
  | drop => cases bound

end CommandUse

namespace Operation

variable [Driver σ]

/-- The command under whose name the operation uses a command, with the use. -/
def commandUse? (op : Operation σ) (w : Workspace σ) : Option (CommandUse σ × Command σ) :=
  op.use?.bind fun x => (Named.find? x.1 w.commands).map (x.2, ·)

/-- The execution that the operation begins, if it begins one. -/
def begins (op : Operation σ) (w : Workspace σ) : Option ExecutionInfo :=
  match op with
  | createCommand name method r =>
    (Named.find? name w.commands).map fun _ => r.info w.session.nextTicket method .blocking
  | op => (op.commandUse? w).bind fun x => x.1.begins x.2 w.session

/-- The session once the execution is through, if the operation begins one. -/
def overture (op : Operation σ) (w : Workspace σ) : Session σ :=
  match op with
  | createCommand _ _ _ => (op.perform w).2.session
  | op => ((op.commandUse? w).map fun x => x.1.overture x.2 w.session).getD w.session

/-- The reader that the operation disposes, if it disposes one. -/
def disposes (op : Operation σ) (w : Workspace σ) : Option (DataReader σ) :=
  match op with
  | declare name _ => (Named.find? name w.commands).bind (·.reader)
  | op => (op.commandUse? w).bind fun x => x.1.disposes x.2 w.session

/-- What an operation does about the events of executions: first come those of the execution that it
begins, and then those of the reader that it disposes. -/
structure Accounts (op : Operation σ) (w : Workspace σ) : Prop where
  executes : w.session.Executes (op.begins w) (op.overture w)
  disposes : (op.overture w).Disposes (op.disposes w) (op.perform w).2.session
  bound {name : String} {c : Command σ} {info : ExecutionInfo}
    (keeps : Named.find? name (op.perform w).2.commands = some c)
    (bound : c.execution? = some info) :
    (∃ name c, Named.find? name w.commands = some c ∧ c.execution? = some info) ∨
      op.begins w = some info

section Cases

variable {op : Operation σ} {w : Workspace σ} {name : String} {use : CommandUse σ}

theorem accounts_of_idle (begins : op.begins w = none) (overture : op.overture w = w.session)
    (disposes : op.disposes w = none) (silent : w.session.Silent (op.perform w).2.session)
    (commands : (op.perform w).2.commands = w.commands) : op.Accounts w where
  executes := by
    rw [begins, overture]
    exact .of_silent (.refl _)
  disposes := by
    rw [disposes, overture]
    exact .of_silent silent
  bound {name c info} keeps bound := by
    rw [commands] at keeps
    exact .inl ⟨name, c, keeps, bound⟩

theorem accounts_of_use (is : op.use? = some (name, use)) : op.Accounts w := by
  have begins : op.begins w =
      (Named.find? name w.commands).bind fun c => use.begins c w.session := by
    cases op <;> cases is <;> cases found : Named.find? name w.commands <;>
      simp [Operation.begins, commandUse?, use?, found]
  have overture : op.overture w =
      ((Named.find? name w.commands).map fun c => use.overture c w.session).getD w.session := by
    cases op <;> cases is <;> cases found : Named.find? name w.commands <;>
      simp [Operation.overture, commandUse?, use?, found]
  have disposes : op.disposes w =
      (Named.find? name w.commands).bind fun c => use.disposes c w.session := by
    cases op <;> cases is <;> cases found : Named.find? name w.commands <;>
      simp [Operation.disposes, commandUse?, use?, found]
  cases found : Named.find? name w.commands with
  | none =>
    rw [found] at begins overture disposes
    have ends := perform_missing is found
    refine accounts_of_idle begins overture disposes ?_ ?_
    · rw [ends]
      exact .refl _
    · rw [ends]
  | some c =>
    rw [found] at begins overture disposes
    have uses := perform_use is found
    refine ⟨?_, ?_, fun {other c' info} keeps bound => ?_⟩
    · rw [begins, overture]
      exact use.perform_executes c w.session
    · rw [overture, disposes, uses.session]
      exact use.perform_disposes c w.session
    · by_cases same : other = name
      · rw [same, uses.kept] at keeps
        have after : (use.perform c w.session).1.2.execution? = some info := by
          cases use <;> cases keeps <;> exact bound
        rw [begins]
        exact (use.perform_bound c w.session after).imp (fun before => ⟨name, c, found, before⟩) id
      · rw [uses.others same] at keeps
        exact .inl ⟨other, c', keeps, bound⟩

end Cases

/-- Nothing is told of any execution, and all commands are kept as they are. -/
structure Idles (w w' : Workspace σ) : Prop where
  silent : w.session.Silent w'.session
  commands : w'.commands = w.commands

omit [Driver σ] in
theorem Idles.trans {w w' w'' : Workspace σ} (first : Idles w w') (second : Idles w' w'') :
    Idles w w'' := ⟨first.silent.trans second.silent, second.commands.trans first.commands⟩

omit [Driver σ] in
theorem idles_engine {m : Engine σ α} (mute : m.Mute) (w : Workspace σ) :
    Idles w (Program.engine m w).2 := ⟨mute.speaks (.refl _), rfl⟩

theorem idles_keepBegun (name : String) (o : Outcome (Transaction σ)) (w : Workspace σ) :
    Idles w (Program.keepBegun name o w).2 := by
  cases o with
  | error failure => exact ⟨.refl _, rfl⟩
  | ok t =>
    unfold Program.keepBegun
    dsimp only
    rw [Program.bind_apply, Program.get_apply]
    dsimp only
    cases Named.find? name w.transactions with
    | none => exact ⟨.refl _, rfl⟩
    | some old =>
      have dropped : (old.drop : Engine σ Unit).Mute := .of_runs fun _ watches scenes commands =>
        runs_dropTransaction watches scenes (answers_of_eq scenes commands) old
      exact (idles_engine dropped w).trans ⟨.refl _, rfl⟩

omit [Driver σ] in
theorem idles_withTransaction {name : String} {act : Transaction σ → Program σ (Answer σ)}
    (acts : ∀ t w, Idles w (act t w).2) (w : Workspace σ) :
    Idles w (Program.withTransaction name act w).2 := by
  unfold Program.withTransaction
  rw [Program.bind_apply, Program.get_apply]
  dsimp only
  cases Named.find? name w.transactions with
  | none => exact ⟨.refl _, rfl⟩
  | some t => exact acts t w

theorem declare_accounts (name : String) (s : Statement) (w : Workspace σ) :
    (declare name s).Accounts w := by
  have bound : ∀ {other c info}, Named.find? other (Named.insert name (⟨s, none⟩ : Command σ)
      w.commands) = some c → c.execution? = some info →
      ∃ name c, Named.find? name w.commands = some c ∧ c.execution? = some info := by
    intro other c info keeps bound
    by_cases same : other = name
    · rw [same, Named.find?_insert_same] at keeps
      cases keeps
      cases bound
    · rw [Named.find?_insert_of_ne same] at keeps
      exact ⟨other, c, keeps, bound⟩
  have session : ((declare name s).perform w).2.session =
      match Named.find? name w.commands with
      | none => w.session
      | some c => (c.drop w.session).2 := by
    unfold perform
    dsimp only
    rw [Program.bind_apply, Program.get_apply]
    dsimp only
    cases Named.find? name w.commands <;> rfl
  have commands : ((declare name s).perform w).2.commands =
      Named.insert name ⟨s, none⟩ w.commands := by
    unfold perform
    dsimp only
    rw [Program.bind_apply, Program.get_apply]
    dsimp only
    cases Named.find? name w.commands <;> rfl
  refine ⟨.of_silent (.refl _), ?_, fun keeps is => .inl (bound (commands ▸ keeps) is)⟩
  change w.session.Disposes ((Named.find? name w.commands).bind (·.reader)) _
  rw [session]
  cases Named.find? name w.commands with
  | none => exact .of_silent (.refl _)
  | some c => exact c.drop_disposes w.session

theorem createCommand_accounts (name : String) (method : Method) (r : Request σ) (w : Workspace σ) :
    (createCommand name method r).Accounts w := by
  cases found : Named.find? name w.commands with
  | none =>
    have ends : (createCommand name method r).perform w = (.noCommand, w) :=
      withCommand_of_none found _
    refine accounts_of_idle ?_ ?_ rfl ?_ ?_
    · simp [begins, found]
    · change ((createCommand name method r).perform w).2.session = _
      rw [ends]
    · rw [ends]
      exact .refl _
    · rw [ends]
  | some c =>
    have ends : ((createCommand name method r).perform w).2 =
        (Program.engine (c.statement.createCommand method r) w).2 :=
      congrArg Prod.snd (withCommand_of_find found _)
    have begun : (createCommand name method r).begins w =
        some (r.info w.session.nextTicket method .blocking) := by simp [begins, found]
    have executes := c.statement.createCommand_executes method r w.session
    refine ⟨?_, .of_silent (.refl _), fun {other c' info} keeps bound => ?_⟩
    · change w.session.Executes _ ((createCommand name method r).perform w).2.session
      rw [begun, ends]
      exact executes
    · rw [ends] at keeps
      exact .inl ⟨other, c', keeps, bound⟩

theorem drain_accounts (name : String) (w : Workspace σ) : (drain name).Accounts w := by
  cases found : Named.find? name w.commands with
  | none =>
    have ends : (drain name).perform w = (.noCommand, w) := withCommand_of_none found _
    exact accounts_of_idle rfl rfl rfl (by rw [ends]; exact .refl _) (by rw [ends])
  | some c =>
    cases reader : c.reader with
    | none =>
      have ends : (drain name).perform w = (.noReader, w) := by
        refine (withCommand_of_find found _).trans ?_
        rw [reader]
        rfl
      exact accounts_of_idle rfl rfl rfl (by rw [ends]; exact .refl _) (by rw [ends])
    | some r =>
      have ends : ((drain name).perform w).2 = { w with
          session := (r.drain w.session).2
          commands := Named.insert name { c with reader := some (r.drain w.session).1.2 }
            w.commands } := by
        refine (congrArg Prod.snd (withCommand_of_find found _)).trans ?_
        rw [reader]
        rfl
      have drained : (r.drain : Engine σ _).Mute := .of_runs fun _ watches scenes commands =>
        runs_readerDrain watches (answers_of_eq scenes commands) (readers_of_eq scenes commands r)
      refine ⟨.of_silent (.refl _), ?_, fun {other c' info} keeps bound => .inl ?_⟩
      · rw [ends]
        exact .of_silent (drained.speaks (.refl _))
      · rw [ends] at keeps
        by_cases same : other = name
        · rw [same, Named.find?_insert_same] at keeps
          cases keeps
          refine ⟨name, c, found, ?_⟩
          rw [← bound, Command.execution?, Command.execution?, reader]
          exact (DataReader.lasting_execution.drain r w.session).symm
        · rw [Named.find?_insert_of_ne same] at keeps
          exact ⟨other, c', keeps, bound⟩

/-- Whatever an operation does, all events of executions that it raises are accounted for. -/
theorem perform_accounts (op : Operation σ) (w : Workspace σ) : op.Accounts w := by
  have idle : ∀ {op : Operation σ}, op.begins w = none → op.overture w = w.session →
      op.disposes w = none → Idles w (op.perform w).2 → op.Accounts w :=
    fun begins overture disposes idles =>
      accounts_of_idle begins overture disposes idles.silent idles.commands
  cases op with
  | limitTrace limit =>
    exact idle rfl rfl rfl ⟨speaks_of_journal_eq rfl (Nat.le_refl _) rfl rfl, rfl⟩
  | setCancelled reason =>
    exact idle rfl rfl rfl ⟨speaks_of_journal_eq rfl (Nat.le_refl _) rfl rfl, rfl⟩
  | openNative c mode =>
    exact idle rfl rfl rfl (idles_engine (.of_tries fun _ watches scenes _ =>
      tries_callAlone watches scenes _ mode _) w)
  | closeNative c mode =>
    exact idle rfl rfl rfl (idles_engine (.of_tries fun _ watches scenes _ =>
      tries_callAlone watches scenes _ mode _) w)
  | openConnection c mode =>
    exact idle rfl rfl rfl (idles_engine (.of_tries fun _ watches scenes commands =>
      tries_acquire watches (answers_of_eq scenes commands) mode c) w)
  | closeConnection c mode =>
    exact idle rfl rfl rfl (idles_engine (.of_tries fun _ watches scenes commands =>
      tries_release watches (answers_of_eq scenes commands) mode c) w)
  | begin name c isolation mode =>
    have started : (Transaction.start mode c isolation : Attempt σ _).observe.Mute :=
      .of_tries fun _ watches scenes commands =>
        tries_start watches scenes (answers_of_eq scenes commands) mode c isolation
    exact idle rfl rfl rfl ((idles_engine started w).trans (idles_keepBegun name _ _))
  | adopt name c native mode =>
    have adopted : (Transaction.adopt mode c native : Attempt σ _).observe.Mute :=
      .of_tries fun _ watches scenes commands =>
        tries_adopt watches (answers_of_eq scenes commands) mode c native
    exact idle rfl rfl rfl ((idles_engine adopted w).trans (idles_keepBegun name _ _))
  | complete name completion mode =>
    refine idle rfl rfl rfl (idles_withTransaction (fun t w => ?_) w)
    have completed : (t.complete mode completion : Engine σ _).Mute :=
      .of_runs fun _ watches scenes commands =>
        runs_complete watches scenes (answers_of_eq scenes commands) mode completion t
    exact (idles_engine completed w).trans ⟨.refl _, rfl⟩
  | disposeTransaction name mode =>
    refine idle rfl rfl rfl (idles_withTransaction (fun t w => ?_) w)
    have disposed : (t.dispose mode : Engine σ _).Mute := .of_runs fun _ watches scenes commands =>
      runs_disposeTransaction watches scenes (answers_of_eq scenes commands) mode t
    exact (idles_engine disposed w).trans ⟨.refl _, rfl⟩
  | dropTransaction name =>
    refine idle rfl rfl rfl (idles_withTransaction (fun t w => ?_) w)
    have dropped : (t.drop : Engine σ Unit).Mute := .of_runs fun _ watches scenes commands =>
      runs_dropTransaction watches scenes (answers_of_eq scenes commands) t
    exact ⟨dropped.speaks (.refl _), rfl⟩
  | declare name s => exact declare_accounts name s w
  | createCommand name method r => exact createCommand_accounts name method r w
  | drain name => exact drain_accounts name w
  | populate name s => exact accounts_of_use rfl
  | dropCommand name => exact accounts_of_use rfl
  | executeNonQuery name r mode => exact accounts_of_use rfl
  | executeScalar name r mode => exact accounts_of_use rfl
  | executeReader name r mode => exact accounts_of_use rfl
  | read name mode => exact accounts_of_use rfl
  | nextResult name mode => exact accounts_of_use rfl
  | getValue name ordinal => exact accounts_of_use rfl
  | isNull name ordinal => exact accounts_of_use rfl
  | columnName name ordinal => exact accounts_of_use rfl
  | disposeReader name mode => exact accounts_of_use rfl

end Operation

end SqlExecution
