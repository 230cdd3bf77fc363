import SqlExecution.Proofs.Accounting
import SqlExecution.Proofs.Beginning
import SqlExecution.Proofs.CleanupFailures
import SqlExecution.Proofs.Completions
import SqlExecution.Proofs.ProgramEvents
import SqlExecution.Scripted.Basic

/-! Whether operations tell of the errors of their cleanup steps, in what they return or in a
warning. They do, but for an error of closing that comes after a failure to dispose a command, to
drain a cursor or to roll back. -/

namespace SqlExecution

variable {σ α : Type}

open Session Tandem

namespace Statement

variable [Driver σ] {mode : Mode} {r : Request σ}

section Releasing

variable {info : ExecutionInfo} {s : Session σ}

theorem reportFailure_settles (mode : Mode) (logger : Option (Logger σ)) (info : ExecutionInfo)
    (c : NativeCommand) (e : Error) (s : Session σ) :
    s.Settles [] (reportFailure mode logger info c e s).2 := by
  have hidden : Engine.Obeys (Hides (σ := σ) .cleanups) (reportFailure mode logger info c e) :=
    obeys_reportFailure (hears_hides fun _ _ => rfl) (fun l _ => eachHook_hides l) c e
  exact .of_runs hidden (runs_reportFailure (steady_watches s) rfl (fun _ _ => trivial)
    (fun l _ => suits_of_eq rfl rfl l) mode e)

variable (kept : TraceLevel.warn.isKept s.traceLimit = true)
include kept

theorem discharge_settles (mode : Mode) (info : ExecutionInfo) (c : NativeCommand) (opened : Bool) :
    s.Settles [] (discharge mode info c opened s).2 := by
  let complain : Outcome Unit → Session σ → Session σ := fun o t =>
    (Engine.warn Trace.commandTarget "Cleanup after a failed command also failed"
      [Trace.connectionField info.connection] o t).2
  have disposed := c.discard_settles mode s
  have complains : ∀ {closed : Outcome Unit} {t : Session σ},
      s.Settles ((c.discard mode s).1.error?.toList ++ closed.error?.toList) t →
      s.Settles [] (complain closed (complain (c.discard mode s).1 t)) := fun settles =>
    (settles.pays_returned.warn kept).pays_all.warn kept
  cases opened with
  | false =>
    have unclosed : (Outcome.error? (.ok () : Outcome Unit)).toList = [] := rfl
    exact complains (by rwa [unclosed, List.append_nil])
  | true => exact complains (disposed.trans (info.connection.releaseOutcome_settles mode _))

theorem abandon_settles (mode : Mode) (logger : Option (Logger σ)) (info : ExecutionInfo)
    (c : NativeCommand) (e : Error) (opened : Bool) :
    s.Settles [] (abandon mode logger info c e opened s).2 := by
  have reported := reportFailure_settles mode logger info c e s
  rw [abandon_eq]
  exact reported.trans (discharge_settles (by rwa [reported.limit]) mode info c opened)

end Releasing

theorem yielded_settles (r : Request σ) (info : ExecutionInfo) (s : Session σ) :
    s.Settles [] ((yielded r info).observe s).2 := by
  have hidden : Attempt.Obeys (Hides (σ := σ) .cleanups) (yielded r info) :=
    obeys_yielded (allows_hides rfl) (hears_hides fun _ _ => rfl) (hears_hides fun _ _ => rfl)
      fun l _ => eachHook_hides l
  exact .of_steady (hidden s) (steady_yielded (.refl s) info r)

theorem openFor_settles (mode : Mode) (id : ConnectionId) (s : Session σ) :
    s.Settles [] ((openFor mode id).observe s).2 := by
  have hidden : Attempt.Obeys (Hides (σ := σ) .cleanups) (openFor mode id) :=
    obeys_openFor (ConnectionId.obeys_acquire (allows_hides rfl) fun _ _ => .of_journal_eq rfl)
  exact .of_steady (hidden s) ((mute_openFor mode id).steady (.refl s))

theorem Preparation.settles {s : Statement} {info : ExecutionInfo} {start t : Session σ}
    {o : Outcome NativeCommand} (preparation : Preparation s mode r info start o t)
    (kept : TraceLevel.warn.isKept start.traceLimit = true) : start.Settles [] t := by
  have yielding := yielded_settles r info start
  cases preparation with
  | uncreated stops => rwa [stops] at yielding
  | unequipped yields _ =>
    rw [yields] at yielding
    exact yielding.trans (abandon_settles (by rwa [yielding.limit]) ..)
  | equipped yields _ => rwa [yields] at yielding

/-- What is overshadowed where an execution that went well releases its command. -/
def shadowed (shape : Shape σ α) (mode : Mode) (r : Request σ) (s : Statement)
    (start : Session σ) : List Error :=
  match (s.execute shape mode r).observe start with
  | (.ok x, t) => x.command.shadowed mode r.connection t
  | (.error _, _) => []

section Executing

variable {shape : Shape σ α} (faithful : shape.Faithful)
  (shapes : ∀ t : Tandem σ, t.Answers → t.Shapes shape)
include faithful shapes

theorem run_settles (mode : Mode) (info : ExecutionInfo) (logger : Option (Logger σ))
    (c : NativeCommand) (s : Session σ) :
    s.Settles [] ((run shape mode logger info c).observe s).2 := by
  have hidden : Attempt.Obeys (Hides (σ := σ) .cleanups) (run shape mode logger info c) :=
    obeys_run faithful (fun _ => hears_hides fun _ _ => rfl) (fun _ => hears_hides fun _ _ => rfl)
      (fun l _ => eachHook_hides l) (allows_hides rfl)
  exact .of_steady (hidden s) (steady_run (.refl s) shapes mode info logger c)

variable {start : Session σ} (kept : TraceLevel.warn.isKept start.traceLimit = true)
include kept

theorem execute_settles (s : Statement) (mode : Mode) (r : Request σ) :
    start.Settles [] ((s.execute shape mode r).observe start).2 := by
  have course := s.execute_course shape mode r start
  generalize ((s.execute shape mode r).observe start).1 = o,
    ((s.execute shape mode r).observe start).2 = w at course
  have entered : ∀ {setting : Setting σ} {t : Session σ},
      (s.enter shape.method mode r).observe start = (.ok setting, t) → start.Settles [] t := by
    intro setting t enters
    obtain ⟨_, _, rfl⟩ := enter_ok enters
    exact .of_hides (.of_journal_eq rfl) rfl
  have prepared : ∀ {setting : Setting σ} {t u : Session σ} {o : Outcome NativeCommand},
      (s.enter shape.method mode r).observe start = (.ok setting, t) →
      Preparation s mode r setting.info t o u → start.Settles [] u := by
    intro setting t u o enters prepares
    have entered := entered enters
    exact entered.trans (prepares.settles (by rwa [entered.limit]))
  have opened : ∀ {setting : Setting σ} {c : NativeCommand} {t u v : Session σ} {o : Outcome Bool},
      (s.enter shape.method mode r).observe start = (.ok setting, t) →
      Preparation s mode r setting.info t (.ok c) u →
      (openFor mode r.connection).observe u = (o, v) → start.Settles [] v := by
    intro setting c t u v o enters prepares opens
    have opening := openFor_settles mode r.connection u
    rw [opens] at opening
    exact (prepared enters prepares).trans opening
  have ran : ∀ {setting : Setting σ} {c : NativeCommand} {v w : Session σ} {o : Outcome α},
      start.Settles [] v → (run shape mode setting.logger setting.info c).observe v = (o, w) →
      start.Settles [] w := by
    intro setting c v w o before runs
    have running := run_settles faithful shapes mode setting.info setting.logger c v
    rw [runs] at running
    exact before.trans running
  cases course with
  | unentered stops =>
    cases enter_error stops
    exact .refl _
  | unprepared enters stops => exact prepared enters stops
  | unopened enters prepares stops =>
    have opened := opened enters prepares stops
    exact opened.trans (abandon_settles (by rwa [opened.limit]) ..)
  | unperformed enters prepares opens stops =>
    have ran := ran (opened enters prepares opens) stops
    exact ran.trans (abandon_settles (by rwa [ran.limit]) ..)
  | performed enters prepares opens performs => exact ran (opened enters prepares opens) performs

theorem executeOnce_pays (s : Statement) (mode : Mode) (r : Request σ) :
    start.Pays ((s.executeOnce shape mode r).observe start).1.error?
      (s.shadowed shape mode r start) ((s.executeOnce shape mode r).observe start).2 := by
  have executed := execute_settles faithful shapes kept s mode r
  unfold executeOnce shadowed
  rcases executes : (s.execute shape mode r).observe start with ⟨failure | x, t⟩
  all_goals rw [executes] at executed
  · rw [Attempt.observe_bind_error executes]
    exact executed.pays
  · have cleaned := (x.command.cleanUp_pays mode r.connection t).after executed
    rw [Attempt.observe_bind_ok executes, Attempt.observe_lift_bind]
    rcases cleans : x.command.cleanUp mode r.connection t with ⟨failure | _, u⟩
    all_goals
      rw [cleans] at cleaned
      exact cleaned

end Executing

section Delivering

variable {start : Session σ}

/-- What is overshadowed where results are loaded into memory and the command is released again. -/
def shadowedBy (x : Execution Cursor) (mode : Mode) (r : Request σ) (columns : List ReaderColumn)
    (t : Session σ) : List Error :=
  x.output.shadowed mode columns r.detailedErrors t ++
    match (x.output.load mode columns r.detailedErrors).observe t with
    | (.ok _, _) => []
    | (.error _, u) => x.command.shadowed mode r.connection u

def cursorShadowed (mode : Mode) (r : Request σ) (s : Statement) (start : Session σ) : List Error :=
  match (s.execute .reader mode r).observe start with
  | (.ok x, t) => (r.columns.map (shadowedBy x mode r · t)).getD []
  | (.error _, _) => []

theorem openCursor_pays (s : Statement) (mode : Mode) (r : Request σ)
    (kept : TraceLevel.warn.isKept start.traceLimit = true) :
    start.Pays ((s.openCursor mode r).observe start).1.error? (s.cursorShadowed mode r start)
      ((s.openCursor mode r).observe start).2 := by
  have executed := execute_settles Shape.reader_faithful (fun _ => shapes_reader) kept s mode r
  have delivery := s.openCursor_delivery mode r start
  generalize ((s.openCursor mode r).observe start).1 = o,
    ((s.openCursor mode r).observe start).2 = w at delivery
  have shadows : ∀ {x : Execution Cursor} {columns : List ReaderColumn} {t : Session σ},
      (s.execute .reader mode r).observe start = (.ok x, t) → r.columns = some columns →
      s.cursorShadowed mode r start = shadowedBy x mode r columns t := by
    intro x columns t executes declared
    rw [cursorShadowed, executes, declared]
    rfl
  have loaded : ∀ {cursor : Cursor} {columns : List ReaderColumn} {t u : Session σ}
      {o : Outcome BufferedReader}, start.Settles [] t →
      (cursor.load mode columns r.detailedErrors).observe t = (o, u) →
      start.Pays o.error? (cursor.shadowed mode columns r.detailedErrors t) u := by
    intro cursor columns t u o executed loads
    have loading := cursor.load_pays mode columns r.detailedErrors t
    rw [loads] at loading
    exact loading.after executed
  cases delivery with
  | unexecuted stops =>
    rw [stops] at executed
    rw [cursorShadowed, stops]
    exact executed.pays
  | direct executes undeclared =>
    rw [executes] at executed
    rw [cursorShadowed, executes, undeclared]
    exact executed.pays
  | unloaded executes declared stops =>
    rw [executes] at executed
    rw [shadows executes declared, shadowedBy, stops]
    have loaded := loaded executed stops
    exact loaded.trans ((NativeCommand.cleanUp_pays mode r.connection _ _).warn
      (by rwa [loaded.limit]))
  | loaded executes declared loads =>
    rw [executes] at executed
    rw [shadows executes declared, shadowedBy, loads, List.append_nil]
    exact loaded executed loads

end Delivering

theorem createCommand_owesNothing (s : Statement) (method : Method) (r : Request σ)
    {start : Session σ} (kept : TraceLevel.warn.isKept start.traceLimit = true) :
    start.Settles [] (s.createCommand method r start).2 := by
  let info := r.info start.nextTicket method .blocking
  let entered : Session σ := { start with nextTicket := start.nextTicket + 1 }
  have ends : (s.createCommand method r start).2 =
      ((s.prepare .blocking r info).observe entered).2 := rfl
  have fresh : start.Settles [] entered := .of_hides (.of_journal_eq rfl) rfl
  rw [ends]
  exact fresh.trans ((s.prepare_course .blocking r info entered).settles kept)

end Statement

namespace Command

variable [Driver σ] {s : Session σ}

def readerShadowed (mode : Mode) (r : Request σ) (c : Command σ) (s : Session σ) : List Error :=
  c.statement.cursorShadowed mode r s ++
    match (c.statement.openCursor mode r).observe s with
    | (.ok _, t) => (c.reader.getD {}).shadowed mode t
    | (.error _, _) => []

variable (kept : TraceLevel.warn.isKept s.traceLimit = true)
include kept

theorem executeReader_pays (mode : Mode) (r : Request σ) (c : Command σ) :
    s.Pays (c.executeReader mode r s).1.1.error? (c.readerShadowed mode r s)
      (c.executeReader mode r s).2 := by
  have opened := c.statement.openCursor_pays mode r kept
  rw [executeReader_apply, readerShadowed]
  rcases opens : (c.statement.openCursor mode r).observe s with ⟨failure | b, t⟩
  all_goals rw [opens] at opened
  · rw [List.append_nil]
    exact opened
  · exact opened.trans ((c.reader.getD {}).rebind_settles mode b (by rwa [opened.limit]))

theorem drop_settles (c : Command σ) :
    s.Settles ((c.reader.map (·.shadowed .blocking s)).getD []) (c.drop s).2 := by
  unfold drop
  cases c.reader with
  | none => exact .refl s
  | some r => exact r.drop_settles kept

end Command

namespace Transaction

variable [Driver σ] {s : Session σ}

theorem abort_settles (mode : Mode) (t : Transaction σ) (s : Session σ) :
    s.Settles (t.abort mode s).1.error?.toList (t.abort mode s).2 := by
  unfold abort
  split
  · exact (settles_trace .debug Trace.transactionTarget "Rolling back transaction on dispose"
      [Trace.transactionField t.id] s).after (settles_call (fun _ => rfl) _)
  · exact .refl s

theorem clear_settles (mode : Mode) (t : Transaction σ) (s : Session σ) :
    s.Settles (t.clear mode s).1.1.error?.toList (t.clear mode s).2 := by
  have ceased : s.Settles [] (t.ceased s) := .of_hides (.of_journal_eq rfl) rfl
  cases released : t.released with
  | true =>
    rw [clear_of_released released]
    exact ceased
  | false =>
    rw [clear_of_held released]
    exact ceased.after (t.connection.releaseOutcome_settles mode _)

/-- Where the native transaction cannot be rolled back, the error of closing the connection is
overshadowed. -/
def shadowed (mode : Mode) (t : Transaction σ) (s : Session σ) : List Error :=
  if t.state = .disposed then []
  else match t.abort mode s with
    | (.ok _, _) => []
    | (.error _, u) => (clear mode { t with state := .disposed } u).1.1.error?.toList

theorem dispose_pays (mode : Mode) (t : Transaction σ) (s : Session σ) :
    s.Pays (t.dispose mode s).1.1.error? (t.shadowed mode s) (t.dispose mode s).2 := by
  unfold shadowed
  by_cases spent : t.state = .disposed
  · rw [dispose_of_disposed mode spent, if_pos spent]
    exact (Settles.refl s).pays
  · rw [dispose_of_undisposed spent, if_neg spent]
    have aborted := t.abort_settles mode s
    rcases aborts : t.abort mode s with ⟨failure | _, u⟩
    all_goals
      rw [aborts] at aborted
      have cleared := aborted.trans (clear_settles mode { t with state := .disposed } u)
    · exact cleared.pays_returned
    · exact cleared.pays_all

theorem note_pays (completion : Completion) (native : NativeTransaction) (mode : Mode)
    (s : Session σ) :
    s.Pays (Engine.call (completion.note native mode) ((completion.native native).perform mode)
        s).1.error? []
      (Engine.call (completion.note native mode)
        ((completion.native native).perform mode) s).2 := by
  cases completion with
  | commit =>
    have hidden : Engine.Obeys (Hides (σ := σ) .cleanups)
        (Engine.call (.commit native mode) ((Driver.commit native).perform mode)) :=
      Engine.obeys_call (allows_hides rfl) fun _ => rfl
    exact (Settles.of_hides (hidden s) rfl).pays
  | rollback => exact (settles_call (fun _ => rfl) s).pays_all

theorem complete_pays (mode : Mode) (completion : Completion) (t : Transaction σ)
    (s : Session σ) :
    s.Pays (t.complete mode completion s).1.1.error? [] (t.complete mode completion s).2 := by
  by_cases active : t.state = .active
  · rcases enters : mode.checkpoint s.scene.cancelled with failure | _
    · rw [complete_of_stopped active enters]
      exact (Settles.refl s).pays
    · have called := note_pays completion t.native mode s
      rcases ends : Engine.call (completion.note t.native mode)
        ((completion.native t.native).perform mode) s with ⟨failure | _, v⟩
      all_goals
        rw [complete_of_called active enters ends]
        rw [ends] at called
      · cases failure with
        | error e => exact called.trans (settles_trace ..)
        | cancelled reason => exact called
        | panicked message => exact called
      · have cleared := clear_settles mode { t with state := completion.state }
          (Engine.trace .debug Trace.transactionTarget (completion.participle ++ " transaction")
            [Trace.transactionField t.id, Trace.connectionField t.connection] v).2
        exact cleared.pays_all.after (called.settles.trans (settles_trace ..))
  · rw [complete_of_inactive active]
    exact (Settles.refl s).pays

theorem beginNative_settles (mode : Mode) (id : ConnectionId) (isolation : IsolationLevel)
    (transaction : TransactionId) (s : Session σ) :
    s.Settles [] ((beginNative mode id isolation transaction).observe s).2 := by
  have hidden : s.Hides .cleanups ((beginNative mode id isolation transaction).observe s).2 :=
    beginNative_obeys (fun _ => hears_hides fun _ _ => rfl) (allows_hides rfl) transaction
      fun l _ => eachHook_hides l
  have begins := tries_beginNative (steady_watches s) rfl mode id isolation transaction
  exact .of_steady hidden (begins.alone (.refl s)).2

theorem wrap_settles (id : ConnectionId) (native : NativeTransaction) (transaction : TransactionId)
    (owned : Bool) (s : Session σ) : s.Settles [] (wrap id native transaction owned s).2 := by
  have hidden : Engine.Obeys (Hides (σ := σ) .cleanups) (wrap id native transaction owned) :=
    obeys_wrap (fun _ => hides_noted rfl) (fun _ _ => .of_journal_eq rfl) native transaction owned
  exact .of_runs hidden (runs_wrap (steady_watches s) id native transaction owned)

theorem adopt_settles (mode : Mode) (id : ConnectionId) (native : NativeTransaction)
    (s : Session σ) : s.Settles [] ((adopt mode id native).observe s).2 := by
  unfold adopt
  rw [Attempt.observe_bind_apply, ensureNone_apply]
  cases (s.connections id).ambient with
  | some a => exact .refl s
  | none =>
    have acquired := id.acquire_settles mode s
    dsimp only
    rcases opens : (id.acquire mode).observe s with ⟨failure | opened, t⟩
    all_goals rw [opens] at acquired
    · rw [Attempt.observe_bind_error opens]
      exact acquired
    · have serial : t.Settles [] (serialized t) := .of_hides (.of_journal_eq rfl) rfl
      have traced := (acquired.trans serial).trans (settles_trace .debug Trace.transactionTarget
        "Using external transaction" [Trace.connectionField id,
          Trace.transactionField ⟨t.nextSerial⟩] _)
      rw [Attempt.observe_bind_ok opens]
      exact traced.trans (wrap_settles id native ⟨t.nextSerial⟩ false _)

variable (kept : TraceLevel.warn.isKept s.traceLimit = true)
include kept

theorem drop_settles (t : Transaction σ) : s.Settles (t.shadowed .blocking s) (t.drop s).2 := by
  have disposed := t.dispose_pays .blocking s
  by_cases spent : t.state = .disposed
  · rw [drop_of_disposed spent, shadowed, if_pos spent]
    exact .refl s
  · unfold drop
    rw [if_neg spent, Engine.bind_apply]
    rcases disposes : t.dispose .blocking s with ⟨⟨failure | _, _⟩, u⟩
    all_goals rw [disposes] at disposed
    · exact disposed.warning kept fun e is => failure.told_of_error [_] is
    · exact disposed.settles

theorem start_settles (mode : Mode) (id : ConnectionId) (isolation : IsolationLevel) :
    s.Settles [] ((start mode id isolation).observe s).2 := by
  have beginning := start_beginning mode id isolation s
  generalize ((start mode id isolation).observe s).1 = o,
    ((start mode id isolation).observe s).2 = w at beginning
  have acquired := id.acquire_settles mode s
  have begun : ∀ {opened : Bool} {t u : Session σ} {o : Outcome NativeTransaction},
      (id.acquire mode).observe s = (.ok opened, t) →
      (beginNative mode id isolation ⟨t.nextSerial⟩).observe (serialized t) = (o, u) →
      s.Settles [] u := by
    intro opened t u o opens begins
    have beginning := beginNative_settles mode id isolation ⟨t.nextSerial⟩ (serialized t)
    rw [opens] at acquired
    rw [begins] at beginning
    have serial : t.Settles [] (serialized t) := .of_hides (.of_journal_eq rfl) rfl
    exact (acquired.trans serial).trans beginning
  cases beginning with
  | unentered => exact .refl s
  | unopened stops => rwa [stops] at acquired
  | unbegun opens stops =>
    have begun := begun opens stops
    have released := begun.after (id.releaseOutcome_settles mode _)
    exact released.pays_all.warn kept
  | begun opens begins => exact (begun opens begins).trans (wrap_settles ..)

end Transaction

/-- The error that is returned, if it is one. -/
def Answer.error? : Answer σ → Option Error
  | .done o => o.error?
  | .flag o => o.error?
  | .affected o => o.error?
  | .scalar o => o.error?
  | .value o => o.error?
  | .name o => o.error?
  | .begun o => o.error?
  | .bound o => o.error?
  | .created o _ => o.error?
  | .drained (.error e) => some e
  | _ => none

theorem ReaderUse.perform_settles [Driver σ] {use : ReaderUse σ} (keeping : use.releasing? = none)
    (r : DataReader σ) (s : Session σ) : s.Settles [] (use.perform r s).2 := by
  have hidden := (perform_lawful (R := Hides .cleanups) keeping (r := r) (fun call reads => by
    obtain ⟨c, _, reads⟩ := reads
    exact allows_hides (NativeCall.cleansUp_of_reads reads)) s).1
  exact .of_steady hidden ((mute_perform keeping r).steady (.refl s))

namespace CommandUse

variable [Driver σ] {s : Session σ}

/-- What is overshadowed in a use of a command. -/
def shadowed (c : Command σ) (s : Session σ) : CommandUse σ → List Error
  | nonQuery mode r => c.statement.shadowed .nonQuery mode r s
  | scalar mode r => c.statement.shadowed .scalar mode r s
  | reader mode r => c.readerShadowed mode r s
  | dispose mode => (c.reader.map (·.shadowed mode s)).getD []
  | drop => (c.reader.map (·.shadowed .blocking s)).getD []
  | _ => []

theorem settles_reading {use : CommandUse σ} {u : ReaderUse σ} (reading : use.reading? = some u)
    (c : Command σ) (s : Session σ) : s.Settles [] (use.perform c s).2 := by
  rw [perform_reading reading]
  cases c.reader with
  | none => exact .refl s
  | some r => exact ReaderUse.perform_settles (releasing_reading reading) r s

theorem perform_pays (use : CommandUse σ) (c : Command σ)
    (kept : TraceLevel.warn.isKept s.traceLimit = true) :
    s.Pays (use.perform c s).1.1.error? (use.shadowed c s) (use.perform c s).2 := by
  cases use with
  | populate statement => exact (Settles.refl s).pays
  | nonQuery mode r =>
    exact Statement.executeOnce_pays Shape.nonQuery_faithful (fun _ => shapes_nonQuery) kept ..
  | scalar mode r =>
    exact Statement.executeOnce_pays Shape.scalar_faithful (fun _ => shapes_scalar) kept ..
  | reader mode r => exact c.executeReader_pays kept mode r
  | read mode => exact (settles_reading (u := .read mode) rfl c s).pays
  | nextResult mode => exact (settles_reading (u := .nextResult mode) rfl c s).pays
  | getValue ordinal => exact (settles_reading (u := .getValue ordinal) rfl c s).pays
  | isNull ordinal => exact (settles_reading (u := .isNull ordinal) rfl c s).pays
  | columnName ordinal => exact (settles_reading (u := .columnName ordinal) rfl c s).pays
  | dispose mode =>
    rw [shadowed]
    cases reader : c.reader with
    | none =>
      rw [perform_dispose_of_none reader]
      exact (Settles.refl s).pays
    | some r =>
      rw [perform_dispose_of_some reader]
      exact r.dispose_pays mode kept
  | drop => exact (c.drop_settles kept).pays

end CommandUse

namespace Operation

variable [Driver σ]

/-- What is overshadowed where a transaction is kept in place of another. -/
def replacementShadowed (name : String) (w : Workspace σ) :
    Outcome (Transaction σ) × Session σ → List Error
  | (.ok _, s) => ((Named.find? name w.transactions).map (·.shadowed .blocking s)).getD []
  | (.error _, _) => []

/-- The errors of cleanup steps in an operation that another failure comes before. -/
def shadowed (op : Operation σ) (w : Workspace σ) : List Error :=
  match op with
  | begin name c isolation mode =>
    replacementShadowed name w ((Transaction.start mode c isolation).observe w.session)
  | adopt name c native mode =>
    replacementShadowed name w ((Transaction.adopt mode c native).observe w.session)
  | disposeTransaction name mode =>
    ((Named.find? name w.transactions).map (·.shadowed mode w.session)).getD []
  | dropTransaction name =>
    ((Named.find? name w.transactions).map (·.shadowed .blocking w.session)).getD []
  | declare name _ =>
    ((Named.find? name w.commands).map (CommandUse.shadowed · w.session .drop)).getD []
  | op => (op.use?.bind fun x =>
      (Named.find? x.1 w.commands).map (CommandUse.shadowed · w.session x.2)).getD []

variable {w : Workspace σ}

theorem keepBegun_pays (name : String) {o : Outcome (Transaction σ)} {s : Session σ}
    (settles : w.session.Settles [] s) (kept : TraceLevel.warn.isKept w.session.traceLimit = true) :
    w.session.Pays (Program.keepBegun name o { w with session := s }).1.error?
      (replacementShadowed name w (o, s))
      (Program.keepBegun name o { w with session := s }).2.session := by
  cases o with
  | error failure => exact settles.pays
  | ok t =>
    rw [Program.keepBegun_ok, replacementShadowed]
    dsimp only
    cases Named.find? name w.transactions with
    | none => exact settles.pays
    | some old => exact (settles.trans (old.drop_settles (by rwa [settles.limit]))).pays

theorem withTransaction_pays {name : String} {act : Transaction σ → Program σ (Answer σ)}
    {shadows : Transaction σ → List Error}
    (acts : ∀ t, w.session.Pays (act t w).1.error? (shadows t) (act t w).2.session) :
    w.session.Pays (Program.withTransaction name act w).1.error?
      (((Named.find? name w.transactions).map shadows).getD [])
      (Program.withTransaction name act w).2.session := by
  unfold Program.withTransaction
  rw [Program.bind_apply, Program.get_apply]
  dsimp only
  cases Named.find? name w.transactions with
  | none => exact (Settles.refl _).pays
  | some t => exact acts t

theorem pays_of_use {op : Operation σ} {name : String} {use : CommandUse σ}
    (is : op.use? = some (name, use)) (kept : TraceLevel.warn.isKept w.session.traceLimit = true) :
    w.session.Pays (op.perform w).1.error? (op.shadowed w) (op.perform w).2.session := by
  have shadows : op.shadowed w =
      ((Named.find? name w.commands).map (use.shadowed · w.session)).getD [] := by
    cases op <;> cases is <;> rfl
  rw [shadows]
  cases found : Named.find? name w.commands with
  | none =>
    rw [perform_missing is found]
    exact (Settles.refl _).pays
  | some c =>
    have uses := perform_use is found
    rw [uses.answer, uses.session]
    exact use.perform_pays c kept

theorem withCommand_settles {name : String} {act : Command σ → Program σ (Answer σ)}
    (acts : ∀ c, w.session.Settles [] (act c w).2.session) :
    w.session.Settles [] (Program.withCommand name act w).2.session :=
  Program.withCommand_cases (P := fun x => w.session.Settles [] x.2.session) (.refl _)
    fun c _ => acts c

/-- Of the errors of its cleanup steps, an operation returns or warns of all that nothing
overshadows. -/
theorem perform_pays (op : Operation σ) (limited : ∀ limit, op ≠ limitTrace limit)
    (kept : TraceLevel.warn.isKept w.session.traceLimit = true) :
    w.session.Pays (op.perform w).1.error? (op.shadowed w) (op.perform w).2.session := by
  cases op with
  | limitTrace limit => exact absurd rfl (limited limit)
  | setCancelled reason =>
    have moved : w.session.Settles [] ((setCancelled reason).perform w).2.session :=
      .of_hides (.of_journal_eq rfl) rfl
    exact moved.pays
  | openNative c mode =>
    have hidden : Engine.Obeys (Hides (σ := σ) .cleanups) (Engine.call (.openConnection c mode)
        ((Driver.openConnection c : Dual σ Unit).perform mode)) :=
      Engine.obeys_call (allows_hides rfl) fun _ => rfl
    exact (Settles.of_hides (hidden w.session) rfl).pays
  | closeNative c mode =>
    exact (Attempt.call_settles (.closeConnection c mode) mode (Driver.closeConnection c)
      (fun _ => rfl) w.session).pays_all
  | openConnection c mode => exact (c.acquire_settles mode w.session).pays
  | closeConnection c mode => exact (c.release_settles mode w.session).pays_all
  | begin name c isolation mode =>
    exact keepBegun_pays name (Transaction.start_settles kept mode c isolation) kept
  | adopt name c native mode =>
    exact keepBegun_pays name (Transaction.adopt_settles mode c native w.session) kept
  | complete name completion mode =>
    exact Program.withTransaction_cases (P := fun x => w.session.Pays x.1.error? [] x.2.session)
      (Settles.refl _).pays fun t _ => t.complete_pays mode completion w.session
  | disposeTransaction name mode =>
    exact withTransaction_pays fun t => t.dispose_pays mode w.session
  | dropTransaction name => exact withTransaction_pays fun t => (t.drop_settles kept).pays
  | declare name s =>
    rw [declare_apply, shadowed]
    cases Named.find? name w.commands with
    | none => exact (Settles.refl _).pays
    | some old => exact (old.drop_settles kept).pays
  | createCommand name method r =>
    exact (withCommand_settles fun c => c.statement.createCommand_owesNothing method r kept).pays
  | drain name =>
    refine (withCommand_settles fun c => ?_).pays
    cases c.reader with
    | none => exact .refl _
    | some r =>
      have keeping : (ReaderUse.drain : ReaderUse σ).releasing? = none := rfl
      exact ReaderUse.perform_settles keeping r w.session
  | populate name s => exact pays_of_use rfl kept
  | dropCommand name => exact pays_of_use rfl kept
  | executeNonQuery name r mode => exact pays_of_use rfl kept
  | executeScalar name r mode => exact pays_of_use rfl kept
  | executeReader name r mode => exact pays_of_use rfl kept
  | read name mode => exact pays_of_use rfl kept
  | nextResult name mode => exact pays_of_use rfl kept
  | getValue name ordinal => exact pays_of_use rfl kept
  | isNull name ordinal => exact pays_of_use rfl kept
  | columnName name ordinal => exact pays_of_use rfl kept
  | disposeReader name mode => exact pays_of_use rfl kept

/-- What is noted in the operation. -/
def gained (op : Operation σ) (w : Workspace σ) : List (Moment σ) :=
  (op.perform w).2.session.journal.drop w.session.journal.length

/-- The error is returned, or a warning tells of it. -/
def Tells (op : Operation σ) (w : Workspace σ) (e : Error) : Prop :=
  (op.perform w).1.error? = some e ∨ ∃ m ∈ op.gained w, m.Warns e

instance (op : Operation σ) (w : Workspace σ) (e : Error) : Decidable (op.Tells w e) :=
  inferInstanceAs (Decidable (_ ∨ _))

/-- A cleanup step failed with the error, and nobody is told of it. -/
def Loses (op : Operation σ) (w : Workspace σ) (e : Error) : Prop :=
  e ∈ (op.gained w).filterMap Moment.cleanupError? ∧ ¬ op.Tells w e

instance (op : Operation σ) (w : Workspace σ) (e : Error) : Decidable (op.Loses w e) :=
  inferInstanceAs (Decidable (_ ∧ _))

/-- Where warnings are kept, an operation tells of the errors of all its cleanup steps but for those
that it lets another failure overshadow: when a command cannot be disposed, a cursor cannot be
drained or a transaction cannot be rolled back, it says nothing of the step after that. -/
theorem loses_iff_overshadowed (op : Operation σ) (w : Workspace σ)
    (kept : TraceLevel.warn.isKept w.session.traceLimit = true) (e : Error) :
    op.Loses w e ↔ e ∈ op.shadowed w ∧ ¬ op.Tells w e := by
  refine and_congr_left fun untold => ?_
  -- Only a change of the limit itself may leave warnings unkept at the end, and it calls nothing.
  by_cases limited : ∃ limit, op = limitTrace limit
  · obtain ⟨limit, rfl⟩ := limited
    have idle : (limitTrace limit : Operation σ).gained w = [] := List.drop_length
    rw [idle]
    rfl
  · obtain ⟨owed, ⟨_, added, journal, told, due⟩, pays⟩ :=
      op.perform_pays (fun limit is => limited ⟨limit, is⟩) kept
    have gained : op.gained w = added := by
      rw [Operation.gained, journal, List.drop_left]
    rw [gained]
    refine ⟨fun fails => ?_, fun shadows => due e (List.mem_append_right _ shadows)⟩
    rcases told e fails with owes | warned
    · rcases List.mem_append.1 owes with owes | shadows
      · exact absurd (.inl (pays e owes)) untold
      · exact shadows
    · rw [← gained] at warned
      exact absurd (.inr warned) untold

/-- A command that can neither be disposed nor have its connection closed, where warnings are
kept. -/
def failingCleanup : Workspace Script :=
  let faults : NativeMethod → List (Option Fault)
    | .dispose => [some (.error (.custom "dispose failed"))]
    | .closeConnection => [some (.error (.custom "close failed"))]
    | _ => []
  { session := { scene := ⟨{ connections := fun _ => { faults } }, none⟩, traceLimit := some .warn }
    commands := [("q", { statement := ⟨"DELETE FROM t", []⟩ })] }

theorem loses_iff_overshadowed_close :
    let op : Operation Script := .executeNonQuery "q" ⟨⟨0⟩, none, none, none, none, false, .unknown⟩
      .blocking
    TraceLevel.warn.isKept failingCleanup.session.traceLimit = true ∧
      ∀ e, op.Loses failingCleanup e ↔ e = .custom "close failed" := by
  intro op
  have kept : TraceLevel.warn.isKept failingCleanup.session.traceLimit = true := rfl
  have shadows : op.shadowed failingCleanup = [.custom "close failed"] := by decide +kernel
  have untold : ¬ op.Tells failingCleanup (.custom "close failed") := by decide +kernel
  refine ⟨kept, fun e => ?_⟩
  rw [loses_iff_overshadowed op failingCleanup kept, shadows, List.mem_singleton]
  refine ⟨And.left, fun is => ⟨is, ?_⟩⟩
  rwa [is]

/-- The error of closing the connection is neither returned nor warned of, since disposing the
command failed before it. -/
theorem loses_close_of_failing_dispose :
    let op : Operation Script := .executeNonQuery "q" ⟨⟨0⟩, none, none, none, none, false, .unknown⟩
      .blocking
    TraceLevel.warn.isKept failingCleanup.session.traceLimit = true ∧
      op.Loses failingCleanup (.custom "close failed") := by decide +kernel

end Operation

end SqlExecution
