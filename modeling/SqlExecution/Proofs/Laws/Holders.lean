import SqlExecution.Engine.Transaction
import SqlExecution.Proofs.Laws.Statements
import SqlExecution.Proofs.ReaderLife

/-! What holds opens obeys the laws of opens: readers and transactions, from taking an open to
giving it back, and executions as a whole. -/

namespace SqlExecution

variable {σ α : Type}

open Session

/-- Calls that are only made on a connection that is open. -/
def NativeCall.needsOpen : NativeCall → Bool
  | begin _ _ _ => true
  | commit _ _ => true
  | rollback _ _ => true
  | execute _ _ _ => true
  | columnName _ _ => true
  | read _ _ => true
  | nextResult _ _ => true
  | getValue _ _ => true
  | closeCursor _ _ => true
  | _ => false

theorem NativeCall.needsOpen_of_reads {c : Cursor} {call : NativeCall} (reads : c.Reads call) :
    call.needsOpen = true := by
  unfold Cursor.Reads readsFrom? at reads
  split at reads <;> first | rfl | cases reads

/-- A law under which commands may be executed and read from, with the opens that this takes. -/
structure Session.Serves [Driver σ] (R : Session σ → Session σ → Prop) : Prop extends
    Tolerates R where
  works {call : NativeCall} (kind : call.needsOpen = true) : Allows R call
  takes (mode : Mode) (id : ConnectionId) : Attempt.Obeys R (id.acquire mode)
  gives (mode : Mode) (id : ConnectionId) : Engine.Obeys R (id.releaseOutcome mode)

/-- A law under which everything may be done that the engine does by itself. -/
structure Session.Permits [Driver σ] (R : Session σ → Session σ → Prop) : Prop extends
    Serves R, Lenient R

/-- A law under which readers may let go of what they hold. -/
structure Session.Dismisses [Driver σ] (R : Session σ → Session σ → Prop) : Prop extends
    Discards R where
  disposing : Hears R .readerDisposing
  closes (c : Cursor) (mode : Mode) : Allows R (.closeCursor c mode)
  gives (mode : Mode) (id : ConnectionId) : Engine.Obeys R (id.releaseOutcome mode)

variable {R : Session σ → Session σ → Prop}

theorem Session.Serves.dismisses [Driver σ] (serves : Serves R) : Dismisses R where
  toDiscards := serves.discards
  disposing := serves.hears _
  closes _ _ := serves.works rfl
  gives := serves.gives

namespace DataReader

variable [ReportingLaw R] [Driver σ]

theorem obeys_closeCursor {mode : Mode} {cursor : DataCursor}
    (closes : ∀ c, cursor.native? = some c → Allows R (.closeCursor c mode)) :
    Engine.Obeys R (closeCursor mode cursor) := by
  cases cursor with
  | native c => exact Cursor.obeys_close (closes c rfl)
  | buffered b => exact .pure _

theorem obeys_settle (discards : Discards R) {mode : Mode} {b : ReaderBinding σ}
    (gives : Engine.Obeys R (b.info.connection.releaseOutcome mode)) (closed : Outcome Unit) :
    Engine.Obeys R (do
      let cleaned ← b.command.cleanUp mode b.info.connection
      match closed with
      | .ok () =>
        match cleaned with
        | .ok () => return mode.checkpoint (← get).scene.cancelled
        | failed => return failed
      | failed =>
        Engine.warn Trace.readerTarget
          "Failed to clean up command after closing the cursor failed" [] cleaned
        return failed) := by
  refine (NativeCommand.obeys_cleanUp discards gives b.command).bind fun cleaned => ?_
  rcases closed with failure | _
  · exact (Engine.obeys_warn _ _ _ _).bind fun _ => .pure _
  · rcases cleaned with failure | _
    · exact .pure _
    · exact Engine.obeys_get.bind fun _ => .pure _

theorem obeys_releaseBinding (discards : Discards R) {mode : Mode} {b : ReaderBinding σ}
    (closes : ∀ c, b.cursor.native? = some c → Allows R (.closeCursor c mode))
    (gives : Engine.Obeys R (b.info.connection.releaseOutcome mode)) :
    Engine.Obeys R (releaseBinding mode b) :=
  (obeys_closeCursor closes).bind (obeys_settle discards gives)

theorem obeys_dispose (dismisses : Dismisses R) (mode : Mode) {r : DataReader σ}
    (hooks : ∀ l ∈ r.logger?, l.EachHook (Lets R)) : Engine.Obeys R (r.dispose mode) := by
  unfold dispose
  rcases phase : r.phase with _ | b | _
  · exact .pure _
  · have same : r.logger? = b.logger := by simp [logger?, phase, ReaderPhase.binding?]
    rw [same] at hooks
    refine (obeys_announce dismisses.disposing hooks).bind fun _ => ?_
    exact (obeys_releaseBinding dismisses.toDiscards (fun c _ => dismisses.closes c mode)
      (dismisses.gives mode _)).bind fun _ => .pure _
  · exact .pure _

theorem obeys_drop (dismisses : Dismisses R) {r : DataReader σ}
    (hooks : ∀ l ∈ r.logger?, l.EachHook (Lets R)) : Engine.Obeys R r.drop := by
  unfold drop
  refine (obeys_dispose dismisses .blocking hooks).bind fun disposed => ?_
  split
  · exact Engine.obeys_remark _ _ _ _
  · exact .pure _

theorem obeys_rebind (dismisses : Dismisses R) (mode : Mode) {r : DataReader σ}
    (hooks : ∀ l ∈ r.logger?, l.EachHook (Lets R)) (b : ReaderBinding σ) :
    Engine.Obeys R (r.rebind mode b) :=
  (obeys_dispose dismisses mode hooks).bind fun _ =>
    (Engine.obeys_warn _ _ _ _).bind fun _ => .pure _

end DataReader

variable [Law R]

namespace Transaction

theorem obeys_ensureNone (id : ConnectionId) :
    Attempt.Obeys R (ensureNone id : Attempt σ Unit) := by
  refine Attempt.obeys_get.bind fun s => ?_
  split
  · exact Attempt.obeys_throw _
  · exact .pure _

theorem obeys_wrap (wraps : ∀ w, Notes R (.wrapped w)) {c : ConnectionId}
    (ambient : ∀ s a, R s (s.setConnection c { s.connections c with ambient := a }))
    (native : NativeTransaction) (id : TransactionId) (owned : Bool) :
    Engine.Obeys R (wrap c native id owned) := by
  have current : Engine.Obeys R (Engine.modifyConnection c fun k =>
      { k with ambient := some ⟨native, id⟩ } : Engine σ Unit) := fun s => ambient s _
  refine current.bind fun _ => Engine.obeys_get.bind fun s => ?_
  dsimp only
  split
  · exact (Engine.obeys_record (wraps _)).bind fun _ => .pure _
  · exact .pure _

variable [Driver σ]

theorem obeys_releaseAfterFailure {mode : Mode} {c : ConnectionId}
    (gives : Engine.Obeys R (c.releaseOutcome mode)) :
    Engine.Obeys R (releaseAfterFailure mode c) := gives.bind fun _ => Engine.obeys_warn _ _ _ _

theorem beginNative_obeys (hears : ∀ hook, Hears R hook) {mode : Mode} {c : ConnectionId}
    {isolation : IsolationLevel} (begins : Allows R (.begin c mode isolation)) (id : TransactionId)
    {s : Session σ} (hooks : ∀ l ∈ (s.connections c).logger, l.EachHook (Lets R)) :
    R s ((beginNative mode c isolation id).observe s).2 := by
  have begun : Attempt.Obeys R (Attempt.call (.begin c mode isolation) mode
      (Driver.begin c isolation)) := Attempt.obeys_call begins fun _ => rfl
  unfold beginNative
  rw [Attempt.observe_get_bind]
  refine Attempt.obeys_raised hooks (fun logger hooks => ?_) s
  cases logger with
  | none => exact begun
  | some l =>
    have started : ∀ event native, Attempt.Obeys R (l.transactionStarted mode event native) :=
      fun event native =>
        Logger.obeys_transactionStarted (hears _) (hooks l rfl) mode event native
    refine (Logger.obeys_transactionStarting (hears _) (hooks l rfl) mode _).bind fun offered => ?_
    cases offered with
    | hasResult native => exact started _ native
    | noResult => exact begun.bind (started _)

theorem effect_note (completion : Completion) (t : NativeTransaction) (mode : Mode) (s : Scene σ) :
    ((completion.native t).perform mode s).2 = (completion.note t mode).effect s := by
  cases completion <;> rfl

theorem needsOpen_note (completion : Completion) (t : NativeTransaction) (mode : Mode) :
    (completion.note t mode).needsOpen = true := by cases completion <;> rfl

theorem obeys_clear (lenient : Lenient R) {mode : Mode} {t : Transaction σ}
    (gives : Engine.Obeys R (t.connection.releaseOutcome mode)) :
    Engine.Obeys R (t.clear mode) := by
  have ceases : Engine.Obeys R (Engine.modifyConnection t.connection fun k =>
      if k.ambient.any (·.id = t.id) then { k with ambient := none } else k : Engine σ Unit) := by
    intro s
    change R s (s.setConnection t.connection (if (s.connections t.connection).ambient.any
      (·.id = t.id) then { s.connections t.connection with ambient := none }
      else s.connections t.connection))
    split
    · exact lenient.ambient s t.connection none
    · exact lenient.ambient s t.connection (s.connections t.connection).ambient
  refine ceases.bind fun _ => ?_
  split
  · exact .pure _
  · exact gives.bind fun _ => .pure _

theorem obeys_complete (lenient : Lenient R) {mode : Mode} {completion : Completion}
    {t : Transaction σ} (works : t.state = .active → Allows R (completion.note t.native mode))
    (gives : Engine.Obeys R (t.connection.releaseOutcome mode)) :
    Engine.Obeys R (t.complete mode completion) := by
  unfold complete
  split
  · exact .pure _
  · next active =>
    refine Engine.obeys_get.bind fun s => ?_
    split
    · exact .pure _
    · have called : Engine.Obeys R (Attempt.call (completion.note t.native mode) mode
          (completion.native t.native)).observe :=
        Attempt.obeys_call (works (Decidable.not_not.1 active))
          (effect_note completion t.native mode)
      refine called.bind fun o => ?_
      rcases o with failure | _
      · cases failure with
        | error e => exact (Engine.obeys_trace _ _ _ _).bind fun _ => .pure _
        | cancelled reason => exact .pure _
        | panicked message => exact .pure _
      · have cleared := obeys_clear (t := { t with state := completion.state }) lenient gives
        exact (Engine.obeys_trace _ _ _ _).bind fun _ => cleared

theorem obeys_abort {mode : Mode} {t : Transaction σ}
    (works : t.state = .active → Allows R (.rollback t.native mode)) :
    Engine.Obeys R (t.abort mode) := by
  unfold abort
  split
  · next own =>
    have called : Engine.Obeys R (Attempt.call (.rollback t.native mode) mode
        (Driver.rollback t.native)).observe := Attempt.obeys_call (works own.1) fun _ => rfl
    exact (Engine.obeys_trace _ _ _ _).bind fun _ => called
  · exact .pure _

theorem obeys_dispose (lenient : Lenient R) {mode : Mode} {t : Transaction σ}
    (works : t.state = .active → Allows R (.rollback t.native mode))
    (gives : Engine.Obeys R (t.connection.releaseOutcome mode)) :
    Engine.Obeys R (t.dispose mode) := by
  unfold dispose
  split
  · exact .pure _
  · have cleared := obeys_clear (t := { t with state := .disposed }) lenient gives
    exact (obeys_abort works).bind fun rolledBack => cleared.bind fun _ => .pure _

theorem obeys_drop (lenient : Lenient R) {t : Transaction σ}
    (works : t.state = .active → Allows R (.rollback t.native .blocking))
    (gives : Engine.Obeys R (t.connection.releaseOutcome .blocking)) : Engine.Obeys R t.drop := by
  unfold drop
  split
  · exact .pure _
  · refine (obeys_dispose lenient works gives).bind fun disposed => ?_
    split
    · exact Engine.obeys_trace _ _ _ _
    · exact .pure _

theorem obeys_adopt (lenient : Lenient R) {mode : Mode} {c : ConnectionId}
    (takes : Attempt.Obeys R (c.acquire mode)) (native : NativeTransaction) :
    Attempt.Obeys R (adopt mode c native) := by
  refine (obeys_ensureNone c).bind fun _ => takes.bind fun _ => ?_
  refine (Attempt.obeys_lift Engine.obeys_mint).bind fun serial => ?_
  refine (Attempt.obeys_trace _ _ _ _).bind fun _ => ?_
  exact Attempt.obeys_lift (obeys_wrap lenient.wraps (fun s => lenient.ambient s c) native _ false)

end Transaction

namespace Statement

variable [Driver σ] {shape : Shape σ α} {r : Request σ}

theorem obeys_execute (serves : Serves R) (faithful : shape.Faithful)
    (hooks : ∀ l ∈ r.logger, l.EachHook (Lets R)) (s : Statement) (mode : Mode) :
    Attempt.Obeys R (s.execute shape mode r) := by
  intro start
  have course := s.execute_course shape mode r start
  have entered := s.obeys_enter (R := R) shape.method mode r start
  have opened := obeys_openFor (serves.takes mode r.connection)
  have raised : ∀ {setting t}, (s.enter shape.method mode r).observe start = (.ok setting, t) →
      ∀ l ∈ setting.logger, l.EachHook (Lets R) := by
    intro setting t enters l member
    rw [(enter_ok enters).2.1] at member
    exact hooks l (Option.mem_filter_iff.1 member).1
  generalize (s.execute shape mode r).observe start = ends at course ⊢
  obtain ⟨o, last⟩ := ends
  cases course with
  | unentered stops => rwa [stops] at entered
  | unprepared enters stops =>
    rw [enters] at entered
    exact Law.trans entered (stops.obeys serves.prepares hooks)
  | @unopened setting c failure t u v enters prepares stops =>
    rw [enters] at entered
    have tried := opened u
    rw [stops] at tried
    have abandons : Engine.Obeys R
        (abandon mode setting.logger setting.info c failure.toError false) :=
      obeys_abandon (serves.hears _) serves.discards (raised enters)
        (fun opened => by cases opened) c _
    exact Law.trans (Law.trans entered (prepares.obeys serves.prepares hooks))
      (Law.trans tried (abandons v))
  | @unperformed setting c _ failure t u v w enters prepares opens stops =>
    rw [enters] at entered
    have taken := opened u
    rw [opens] at taken
    have runs : Attempt.Obeys R (run shape mode setting.logger setting.info c) :=
      obeys_run faithful (fun _ => serves.hears _) (fun _ => serves.hears _) (raised enters)
        (serves.works rfl)
    have ran := runs v
    rw [stops] at ran
    have abandons : Engine.Obeys R
        (abandon mode setting.logger setting.info c failure.toError true) :=
      obeys_abandon (serves.hears _) serves.discards (raised enters)
        (fun _ => serves.gives mode _) c _
    exact Law.trans (Law.trans entered (prepares.obeys serves.prepares hooks))
      (Law.trans (Law.trans taken ran) (abandons w))
  | @performed setting c _ _ t u v w enters prepares opens performs =>
    rw [enters] at entered
    have taken := opened u
    rw [opens] at taken
    have runs : Attempt.Obeys R (run shape mode setting.logger setting.info c) :=
      obeys_run faithful (fun _ => serves.hears _) (fun _ => serves.hears _) (raised enters)
        (serves.works rfl)
    have ran := runs v
    rw [performs] at ran
    exact Law.trans (Law.trans entered (prepares.obeys serves.prepares hooks))
      (Law.trans taken ran)

section HandingOver

/-- Release the command and hand the result over. -/
def concluding (mode : Mode) (r : Request σ) (execution : Execution α) : Attempt σ α := do
  Attempt.ofOutcome (← Attempt.lift (execution.command.cleanUp mode r.connection))
  return execution.output

/-- Hand a cursor over as the binding of a reader; with declared columns, what it holds is loaded
before. -/
def delivering (mode : Mode) (r : Request σ) (execution : Execution Cursor) :
    Attempt σ (ReaderBinding σ) :=
  match r.columns with
  | none => return ⟨execution.command, .native execution.output, r.logger, execution.info⟩
  | some columns => do
    match ← (execution.output.load mode columns r.detailedErrors).outcome with
    | .ok buffer => return ⟨execution.command, .buffered buffer, r.logger, execution.info⟩
    | .error failure =>
      Attempt.lift do
        Engine.warn Trace.commandTarget "Failed to clean up command after a reader error"
          [Trace.connectionField r.connection] (← execution.command.cleanUp mode r.connection)
      throw failure

theorem executeOnce_eq (shape : Shape σ α) (s : Statement) (mode : Mode) (r : Request σ) :
    s.executeOnce shape mode r = s.execute shape mode r >>= concluding mode r := rfl

theorem openCursor_eq (s : Statement) (mode : Mode) (r : Request σ) :
    s.openCursor mode r = s.execute .reader mode r >>= delivering mode r := rfl

/-! Handing over obeys a law under which commands may be cleaned up and results loaded. -/

variable {mode : Mode}

omit [Law R] in
theorem obeys_concluding [ReportingLaw R] {execution : Execution α}
    (cleans : Engine.Obeys R (execution.command.cleanUp mode r.connection)) :
    Attempt.Obeys R (concluding mode r execution) :=
  (Attempt.obeys_lift cleans).bind fun _ => (Attempt.obeys_ofOutcome _).bind fun _ => .pure _

omit [Law R] in
theorem obeys_delivering [ReportingLaw R] {execution : Execution Cursor}
    (loads : ∀ columns, Attempt.Obeys R (execution.output.load mode columns r.detailedErrors))
    (cleans : Engine.Obeys R (execution.command.cleanUp mode r.connection)) :
    Attempt.Obeys R (delivering mode r execution) := by
  unfold delivering
  cases r.columns with
  | none => exact .pure _
  | some columns =>
    refine (Attempt.obeys_outcome (loads columns)).bind fun loaded => ?_
    cases loaded with
    | ok buffer => exact .pure _
    | error failure =>
      exact (Attempt.obeys_lift (cleans.bind fun _ => Engine.obeys_warn _ _ _ _)).bind fun _ =>
        Attempt.obeys_throw _

end HandingOver

theorem obeys_executeOnce (serves : Serves R) (faithful : shape.Faithful)
    (hooks : ∀ l ∈ r.logger, l.EachHook (Lets R)) (s : Statement) (mode : Mode) :
    Attempt.Obeys R (s.executeOnce shape mode r) := by
  rw [executeOnce_eq]
  exact (s.obeys_execute serves faithful hooks mode).bind fun execution =>
    obeys_concluding (NativeCommand.obeys_cleanUp serves.discards (serves.gives mode _) _)

theorem obeys_openCursor (serves : Serves R) (hooks : ∀ l ∈ r.logger, l.EachHook (Lets R))
    (s : Statement) (mode : Mode) : Attempt.Obeys R (s.openCursor mode r) := by
  have loads : ∀ (cursor : Cursor) columns,
      Attempt.Obeys R (cursor.load mode columns r.detailedErrors) := fun cursor columns =>
    Cursor.obeys_load (fun _ reads => serves.works (NativeCall.needsOpen_of_reads reads))
      (serves.works rfl) columns r.detailedErrors
  rw [openCursor_eq]
  exact (s.obeys_execute serves Shape.reader_faithful hooks mode).bind fun execution =>
    obeys_delivering (loads execution.output)
      (NativeCommand.obeys_cleanUp serves.discards (serves.gives mode _) _)

theorem obeys_createCommand (prepares : Prepares R) (hooks : ∀ l ∈ r.logger, l.EachHook (Lets R))
    (s : Statement) (method : Method) : Engine.Obeys R (s.createCommand method r) := by
  refine Engine.obeys_newTicket.bind fun ticket => ?_
  have prepared : Engine.Obeys R (s.prepare .blocking r (r.info ticket method .blocking)).observe :=
    obeys_prepare prepares hooks s
  exact prepared.bind fun _ => Engine.obeys_get.bind fun _ => .pure _

end Statement

namespace Command

variable [Driver σ]

def readerLogger? (c : Command σ) : Option (Logger σ) := c.reader.bind (·.logger?)

omit [Driver σ] in
theorem forall_logger_getD {Q : Logger σ → Prop} (c : Command σ)
    (each : ∀ l ∈ c.readerLogger?, Q l) :
    ∀ l ∈ (c.reader.getD {}).logger?, Q l := by
  unfold readerLogger? at each
  cases reader : c.reader with
  | none => exact fun l member => by cases member
  | some r =>
    rw [reader] at each
    exact each

theorem obeys_executeReader (serves : Serves R) {r : Request σ} {c : Command σ}
    (hooks : ∀ l ∈ r.logger, l.EachHook (Lets R))
    (before : ∀ l ∈ c.readerLogger?, l.EachHook (Lets R)) (mode : Mode) :
    Engine.Obeys R (c.executeReader mode r) := by
  have opens : Engine.Obeys R (c.statement.openCursor mode r).observe :=
    Statement.obeys_openCursor serves hooks c.statement mode
  unfold executeReader
  refine opens.bind fun o => ?_
  cases o with
  | error failure => exact .pure _
  | ok b =>
    have previous := c.forall_logger_getD before
    exact (DataReader.obeys_rebind serves.dismisses mode previous b).bind fun _ => .pure _

theorem obeys_drop (dismisses : Dismisses R) {c : Command σ}
    (hooks : ∀ l ∈ c.readerLogger?, l.EachHook (Lets R)) : Engine.Obeys R c.drop := by
  unfold drop
  cases reader : c.reader with
  | none => exact .pure _
  | some r =>
    rw [readerLogger?, reader] at hooks
    exact DataReader.obeys_drop dismisses hooks

end Command

end SqlExecution
