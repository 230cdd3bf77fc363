import SqlExecution.Proofs.Twins.Programs

/-! How blocking operations end. A driver and interceptors are asked for a value or an error where
an operation blocks, and it looks at no context: a blocking operation ends with a value or an error,
never cancelled or panicked. -/

namespace SqlExecution

variable {σ α β ι : Type}

namespace Outcome

/-- What a blocking operation can end with. -/
def Plain (o : Outcome α) : Prop := ∃ r : Result α, o = .ofResult r

theorem plain_ok (a : α) : Plain (.ok a : Outcome α) := ⟨.ok a, rfl⟩

theorem plain_error (e : Error) : Plain (.error (.error e) : Outcome α) := ⟨.error e, rfl⟩

theorem plain_ofResult (r : Result α) : Plain (.ofResult r) := ⟨r, rfl⟩

theorem Plain.error {failure : Failure} (plain : Plain (.error failure : Outcome α)) :
    Plain (.error failure : Outcome β) := by
  obtain ⟨_ | e, same⟩ := plain
  · cases same
    exact plain_error _
  · cases same

theorem plain_map {o : Outcome α} (f : α → β) : Plain (o.map f) ↔ o.Plain := by
  cases o with
  | ok a => exact ⟨fun _ => plain_ok a, fun _ => plain_ok (f a)⟩
  | error failure => exact ⟨Plain.error, Plain.error⟩

theorem Plain.andThen {first second : Outcome Unit} (plain : first.Plain) (rest : second.Plain) :
    (first.andThen second).Plain := by
  cases first with
  | ok _ => exact rest
  | error failure => exact plain

end Outcome

namespace Engine

theorem Yields.pure {P : α → Prop} {a : α} (holds : P a) : Yields P (pure a : Engine σ α) :=
  fun _ => holds

theorem Yields.bind {P : α → Prop} {Q : β → Prop} {m : Engine σ α} {f : α → Engine σ β}
    (first : Yields P m) (rest : ∀ a, P a → Yields Q (f a)) : Yields Q (m >>= f) :=
  fun s => rest _ (first s) (m s).2

theorem yields_blocking (d : Dual σ α) : Yields Outcome.Plain (act (d.perform .blocking)) :=
  fun s => ⟨(d.blocking s.scene).1, rfl⟩

theorem yields_call (note : NativeCall) (d : Dual σ α) :
    Yields Outcome.Plain (call note (d.perform .blocking)) :=
  .after _ fun _ => yields_blocking d

end Engine

open Engine

namespace Attempt

/-- Whatever it starts from, it ends with a value or an error. -/
def Plain (m : Attempt σ α) : Prop := Yields Outcome.Plain m.observe

theorem plain_lift (m : Engine σ α) : Plain (lift m) := fun _ => Outcome.plain_ok _

theorem plain_pure (a : α) : Plain (pure a : Attempt σ α) := fun _ => Outcome.plain_ok a

theorem plain_ofOutcome {o : Outcome α} (plain : o.Plain) : Plain (ofOutcome o : Attempt σ α) :=
  fun _ => plain

theorem plain_throw {failure : Failure} (plain : Outcome.Plain (.error failure : Outcome β)) :
    Plain (throw failure : Attempt σ α) := fun _ => plain.error

theorem plain_error (e : Error) : Plain (throw (.error e) : Attempt σ α) :=
  fun _ => Outcome.plain_error e

theorem Plain.bind {m : Attempt σ α} {f : α → Attempt σ β} (first : Plain m)
    (rest : ∀ a, Plain (f a)) : Plain (m >>= f) := by
  unfold Plain
  rw [observe_bind]
  refine Yields.bind first fun o plain => ?_
  cases o with
  | ok a => exact rest a
  | error failure => exact fun _ => plain.error

theorem Plain.liftThen {P : α → Prop} {m : Engine σ α} {f : α → Attempt σ β} (first : Yields P m)
    (rest : ∀ a, P a → Plain (f a)) : Plain (lift m >>= f) := fun s => rest _ (first s) (m s).2

theorem Plain.outcomeThen {m : Attempt σ α} {f : Outcome α → Attempt σ β} (first : Plain m)
    (rest : ∀ o : Outcome α, o.Plain → Plain (f o)) : Plain (m.outcome >>= f) :=
  .liftThen first rest

theorem Plain.ite {p : Prop} [Decidable p] {m n : Attempt σ α} (yes : Plain m) (no : Plain n) :
    Plain (if p then m else n) := by
  split
  · exact yes
  · exact no

theorem plain_get : Plain (get : Attempt σ (Session σ)) := fun _ => Outcome.plain_ok _

theorem plain_trace (level : TraceLevel) (target message : String)
    (fields : List (String × TraceValue)) :
    Plain (trace level target message fields : Attempt σ Unit) := plain_lift _

theorem plain_call (note : NativeCall) (d : Dual σ α) : Plain (call note .blocking d) :=
  yields_call note d

theorem plain_callPlain (note : NativeCall) (a : Act σ (Result α)) : Plain (callPlain note a) :=
  fun s => ⟨(Engine.call note a s).1, rfl⟩

theorem plain_checkpoint : Plain (checkpoint .blocking : Attempt σ Unit) :=
  fun _ => Outcome.plain_ok ()

theorem plain_foldHooks (stops : Bool) (deliver : ι → α → Engine σ Unit) (hook : ι → α → Dual σ α)
    (is : List ι) (a : α) : Plain (foldHooks .blocking stops deliver hook is a) := by
  induction is generalizing a with
  | nil => exact plain_pure a
  | cons i rest ih =>
    have call : Plain (do
        lift (deliver i a)
        let next ← ExceptT.mk (act ((hook i a).perform .blocking))
        foldHooks .blocking stops deliver hook rest next) :=
      (plain_lift _).bind fun _ => Plain.bind (yields_blocking (hook i a)) ih
    unfold foldHooks
    cases stops with
    | false => exact call
    | true => exact plain_checkpoint.bind fun _ => call

end Attempt

open Attempt

namespace Logger

theorem plain_commandCreating (l : Logger σ) (event : CommandEvent) :
    Plain (l.commandCreating event) := (plain_trace _ _ _ _).bind fun _ => plain_foldHooks _ _ _ _ _

theorem plain_executing (l : Logger σ) (around : CommandInterceptor σ → Around σ α)
    (payload : α → Engine σ Payload) (c : NativeCommand) (event : CommandEvent) :
    Plain (l.executing .blocking around payload c event) :=
  (plain_trace _ _ _ _).bind fun _ => plain_foldHooks _ _ _ _ _

theorem plain_executed (l : Logger σ) (around : CommandInterceptor σ → Around σ α)
    (payload : α → Engine σ Payload) (c : NativeCommand) (event : CommandEvent) (result : α) :
    Plain (l.executed .blocking around payload c event result) :=
  (plain_trace _ _ _ _).bind fun _ => plain_foldHooks _ _ _ _ _

theorem plain_transactionStarting (l : Logger σ) (event : TransactionEvent) :
    Plain (l.transactionStarting .blocking event) :=
  (plain_trace _ _ _ _).bind fun _ => plain_foldHooks _ _ _ _ _

theorem plain_transactionStarted (l : Logger σ) (event : TransactionEvent)
    (t : NativeTransaction) : Plain (l.transactionStarted .blocking event t) :=
  (plain_trace _ _ _ _).bind fun _ => plain_foldHooks _ _ _ _ _

end Logger

variable [Driver σ]

namespace ConnectionId

variable (c : ConnectionId)

theorem plain_openNative : Plain (openNative .blocking c : Attempt σ Bool) := by
  unfold openNative
  refine plain_get.bind fun s => .ite (plain_pure _) ?_
  refine (plain_trace _ _ _ _).bind fun _ => Plain.outcomeThen (plain_call _ _) fun o plain => ?_
  rcases o with failure | _
  · cases failure with
    | error e => exact (plain_trace _ _ _ _).bind fun _ => plain_error e
    | cancelled reason => exact plain_throw plain
    | panicked message => exact plain_throw plain
  · exact (plain_trace _ _ _ _).bind fun _ => plain_pure _

theorem plain_acquire : Plain (acquire .blocking c : Attempt σ Bool) :=
  (plain_openNative c).bind fun _ => (plain_lift _).bind fun _ => plain_pure _

theorem plain_release : Plain (release .blocking c : Attempt σ Bool) := by
  refine plain_get.bind fun s => (plain_lift _).bind fun _ => .ite (plain_pure _) ?_
  exact (plain_trace _ _ _ _).bind fun _ => (plain_call _ _).bind fun _ => plain_pure _

theorem yields_releaseOutcome :
    Yields Outcome.Plain (releaseOutcome .blocking c : Engine σ (Outcome Unit)) :=
  Yields.bind (plain_release c) fun _ plain => .pure ((Outcome.plain_map _).2 plain)

end ConnectionId

namespace Cursor

variable (c : Cursor)

omit [Driver σ] in
theorem plain_gather {step : Attempt σ (Option α)} (plain : Plain step) (n : Nat) :
    Plain (gather step n) := by
  induction n with
  | zero => exact plain_error _
  | succ n ih =>
    refine plain.bind fun found => ?_
    cases found with
    | none => exact plain_pure _
    | some a => exact ih.bind fun _ => plain_pure _

theorem plain_resolve (total fields place : Nat) (columns : List ReaderColumn) :
    Plain (c.resolve total fields place columns : Attempt σ (List Nat)) := by
  induction columns generalizing place with
  | nil => exact plain_pure _
  | cons column rest ih =>
    have later : ∀ ordinal : Nat, Plain (do
        return ordinal :: (← c.resolve total fields (place + 1) rest) : Attempt σ (List Nat)) :=
      fun _ => (ih _).bind fun _ => plain_pure _
    unfold resolve
    cases column.name with
    | none =>
      exact .ite (later place) ((plain_error _).bind later)
    | some name =>
      refine (plain_lift _).bind fun found => ?_
      cases found with
      | none => exact (plain_error _).bind later
      | some ordinal => exact later ordinal

theorem plain_nameColumns (columns : List (ReaderColumn × Nat)) :
    Plain (c.nameColumns columns : Attempt σ (List Resolved)) := by
  induction columns with
  | nil => exact plain_pure _
  | cons column rest ih =>
    unfold nameColumns
    cases column.1.name with
    | none =>
      exact (plain_callPlain _ _).bind fun _ => ih.bind fun _ => plain_pure _
    | some name => exact ih.bind fun _ => plain_pure _

theorem plain_checkedRow (detailed : Bool) (columns : List Resolved) :
    Plain (c.checkedRow detailed columns : Attempt σ (List Value)) := by
  induction columns with
  | nil => exact plain_pure _
  | cons column rest ih =>
    refine (plain_callPlain _ _).bind fun v => ?_
    exact (plain_ofOutcome (Outcome.plain_ofResult _)).bind fun _ => ih.bind fun _ => plain_pure _

theorem plain_plainRow (ordinals : List Nat) :
    Plain (c.plainRow ordinals : Attempt σ (List Value)) := by
  induction ordinals with
  | nil => exact plain_pure _
  | cons ordinal rest ih =>
    exact (plain_callPlain _ _).bind fun _ => ih.bind fun _ => plain_pure _

theorem plain_plainNames (ordinals : List Nat) :
    Plain (c.plainNames ordinals : Attempt σ (List String)) := by
  induction ordinals with
  | nil => exact plain_pure _
  | cons ordinal rest ih =>
    exact (plain_callPlain _ _).bind fun _ => ih.bind fun _ => plain_pure _

theorem plain_rows {row : Attempt σ (List Value)} (plain : Plain row) :
    Plain (c.rows .blocking row) := by
  refine (plain_lift _).bind fun bound => plain_gather ?_ _
  refine Plain.bind (plain_call _ _) fun found => ?_
  exact .ite (plain.bind fun _ => plain_pure _) (plain_pure _)

theorem plain_firstSet (columns : List ReaderColumn) (detailed : Bool) :
    Plain (c.firstSet .blocking columns detailed : Attempt σ ResultSet) := by
  refine (plain_lift _).bind fun fields => (c.plain_resolve _ _ _ _).bind fun ordinals => ?_
  refine (c.plain_nameColumns _).bind fun resolved => ?_
  exact (c.plain_rows (c.plain_checkedRow _ _)).bind fun _ => plain_pure _

theorem plain_laterSet : Plain (c.laterSet .blocking : Attempt σ (Option ResultSet)) := by
  refine Plain.bind (plain_call _ _) fun found => .ite ?_ (plain_pure _)
  refine plain_checkpoint.bind fun _ => (plain_lift _).bind fun fields => ?_
  refine (c.plain_plainNames _).bind fun names => ?_
  exact (c.plain_rows (c.plain_plainRow _)).bind fun _ => plain_pure _

theorem plain_drain (columns : List ReaderColumn) (detailed : Bool) :
    Plain (c.drain .blocking columns detailed : Attempt σ (List ResultSet)) := by
  refine (c.plain_firstSet columns detailed).bind fun first => (plain_lift _).bind fun bound => ?_
  refine (plain_gather c.plain_laterSet _).bind fun later => ?_
  exact (plain_trace _ _ _ _).bind fun _ => plain_pure _

theorem plain_load (columns : List ReaderColumn) (detailed : Bool) :
    Plain (c.load .blocking columns detailed : Attempt σ BufferedReader) := by
  refine (c.plain_drain columns detailed).outcomeThen fun loaded drains => ?_
  refine (plain_lift _).bind fun affected => ?_
  refine Plain.outcomeThen (plain_call _ _) fun closed closes => ?_
  exact (plain_ofOutcome drains).bind fun _ => (plain_ofOutcome closes).bind fun _ => plain_pure _

end Cursor

namespace NativeCommand

variable (c : NativeCommand)

theorem yields_discard : Yields Outcome.Plain (c.discard .blocking : Engine σ (Outcome Unit)) :=
  .after _ fun _ => yields_call _ _

theorem yields_cleanUp (connection : ConnectionId) :
    Yields Outcome.Plain (c.cleanUp .blocking connection : Engine σ (Outcome Unit)) :=
  c.yields_discard.bind fun _ disposed =>
    connection.yields_releaseOutcome.bind fun _ closed => .pure (disposed.andThen closed)

end NativeCommand

namespace Statement

theorem plain_giveUp (logger : Option (Logger σ)) (info : ExecutionInfo) (c : NativeCommand)
    {failure : Failure} (plain : Outcome.Plain (.error failure : Outcome β)) (opened : Bool) :
    Plain (giveUp .blocking logger info c failure opened : Attempt σ α) :=
  (plain_lift _).bind fun _ => plain_throw plain

theorem plain_create (info : ExecutionInfo) : Plain (create info : Attempt σ NativeCommand) :=
  plain_callPlain _ _

theorem plain_obtain (info : ExecutionInfo) (logger : Option (Logger σ)) :
    Plain (obtain info logger) := by
  cases logger with
  | none => exact (plain_create info).bind fun _ => plain_pure _
  | some l =>
    refine (plain_lift _).bind fun event => (l.plain_commandCreating event).bind fun offered => ?_
    cases offered with
    | hasResult c => exact plain_lift _
    | noResult => exact (plain_create info).bind fun _ => plain_lift _

theorem plain_fit (s : Statement) (r : Request σ) (reporting : Option (Logger σ))
    (info : ExecutionInfo) (c : NativeCommand) : Plain (s.fit .blocking r reporting info c) := by
  refine plain_get.bind fun u => ?_
  cases (s.bind r.values).result with
  | error e =>
    exact (plain_giveUp _ _ _ (Outcome.plain_error (α := Unit) e) _).bind fun _ => plain_pure _
  | ok _ => exact plain_pure _

theorem plain_prepare (s : Statement) (r : Request σ) (info : ExecutionInfo) :
    Plain (s.prepare .blocking r info) := by
  refine plain_get.bind fun u => (plain_obtain info _).bind fun obtained => ?_
  obtain ⟨c, hooked⟩ := obtained
  have fitted := s.plain_fit r (r.logger.filter fun l =>
    l.raisesCreate u.traceLimit || l.raisesExecute u.traceLimit) info c
  cases hooked with
  | error e =>
    exact (plain_giveUp _ _ _ (Outcome.plain_error (α := Unit) e) _).bind fun _ => fitted
  | ok _ => exact fitted

omit [Driver σ] in
theorem plain_run (shape : Shape σ α) (logger : Option (Logger σ)) (info : ExecutionInfo)
    (c : NativeCommand) : Plain (run shape .blocking logger info c) := by
  refine plain_checkpoint.bind fun _ => ?_
  cases logger with
  | none => exact plain_call _ _
  | some l =>
    refine (plain_lift _).bind fun event => (l.plain_executing _ _ c event).bind fun offered => ?_
    have executed := l.plain_executed shape.around shape.payload c event
    cases offered with
    | hasResult a => exact executed a
    | noResult => exact plain_checkpoint.bind fun _ => Plain.bind (plain_call _ _) executed

theorem plain_carryOut (shape : Shape σ α) (logger : Option (Logger σ)) (info : ExecutionInfo)
    (c : NativeCommand) : Plain (carryOut shape .blocking logger info c) := by
  refine (plain_run shape logger info c).outcomeThen fun ended plain => ?_
  cases ended with
  | ok output => exact plain_pure _
  | error failure => exact plain_giveUp logger info c plain true

theorem plain_openFor (connection : ConnectionId) :
    Plain (openFor .blocking connection : Attempt σ Bool) :=
  plain_checkpoint.bind fun _ => connection.plain_acquire

theorem plain_execute (shape : Shape σ α) (s : Statement) (r : Request σ) :
    Plain (s.execute shape .blocking r) := by
  refine (plain_ofOutcome (Outcome.plain_ofResult _)).bind fun _ => ?_
  refine plain_checkpoint.bind fun _ => ?_
  refine (plain_lift _).bind fun ticket => (plain_lift _).bind fun logger => ?_
  refine (s.plain_prepare r _).bind fun c => (plain_openFor _).outcomeThen fun opened plain => ?_
  have carried := plain_carryOut shape logger (r.info ticket shape.method .blocking) c
  cases opened with
  | ok _ => exact carried
  | error failure => exact (plain_giveUp _ _ _ plain _).bind fun _ => carried

theorem plain_executeOnce (shape : Shape σ α) (s : Statement) (r : Request σ) :
    Plain (s.executeOnce shape .blocking r) := by
  refine (plain_execute shape s r).bind fun execution => ?_
  refine Plain.liftThen (execution.command.yields_cleanUp r.connection) fun cleaned plain => ?_
  exact (plain_ofOutcome plain).bind fun _ => plain_pure _

theorem plain_openCursor (s : Statement) (r : Request σ) : Plain (s.openCursor .blocking r) := by
  refine (plain_execute .reader s r).bind fun execution => ?_
  obtain ⟨cursor, c, info⟩ := execution
  dsimp only
  cases r.columns with
  | none => exact plain_pure _
  | some columns =>
    refine (cursor.plain_load columns _).outcomeThen fun loaded plain => ?_
    cases loaded with
    | ok buffer => exact plain_pure _
    | error failure => exact (plain_lift _).bind fun _ => plain_throw plain

end Statement

namespace DataReader

variable (r : DataReader σ)

theorem yields_read : Yields (fun x => x.1.Plain) (r.read .blocking) := by
  unfold read
  rcases r.cursor? with _ | c | x
  · exact .pure (Outcome.plain_error _)
  · exact Yields.bind (yields_call _ _) fun _ plain => .pure plain
  · exact .pure (Outcome.plain_ofResult _)

theorem yields_nextResult : Yields (fun x => x.1.Plain) (r.nextResult .blocking) := by
  unfold nextResult
  rcases r.cursor? with _ | c | x
  · exact .pure (Outcome.plain_error _)
  · exact Yields.bind (yields_call _ _) fun _ plain => .pure plain
  · exact .pure (Outcome.plain_ofResult _)

theorem yields_closeCursor (x : DataCursor) :
    Yields Outcome.Plain (closeCursor .blocking x : Engine σ (Outcome Unit)) := by
  cases x with
  | native c => exact yields_call _ _
  | buffered y => exact .pure (Outcome.plain_ok _)

theorem yields_releaseBinding (x : ReaderBinding σ) :
    Yields Outcome.Plain (releaseBinding .blocking x) := by
  refine (yields_closeCursor x.cursor).bind fun closed closes => ?_
  refine (x.command.yields_cleanUp _).bind fun cleaned cleans => ?_
  rcases closed with failure | _
  · exact .after _ fun _ => .pure closes
  · rcases cleaned with failure | _
    · exact .pure cleans
    · exact .after _ fun _ => .pure (Outcome.plain_ok _)

theorem yields_dispose : Yields (fun x => x.1.Plain) (r.dispose .blocking) := by
  unfold dispose
  rcases r.phase with _ | x | _
  · exact .pure (Outcome.plain_ok _)
  · exact .after _ fun _ => (yields_releaseBinding x).bind fun _ plain => .pure plain
  · exact .pure (Outcome.plain_ok _)

end DataReader

theorem Command.yields_executeReader (c : Command σ) (r : Request σ) :
    Yields (fun x => x.1.Plain) (c.executeReader .blocking r) := by
  refine Yields.bind (c.statement.plain_openCursor r) fun opened plain => ?_
  cases opened with
  | error failure => exact .pure plain.error
  | ok binding => exact .after _ fun _ => .pure (Outcome.plain_ok _)

namespace Transaction

omit [Driver σ] in
theorem plain_ensureNone (c : ConnectionId) : Plain (ensureNone c : Attempt σ Unit) := by
  refine plain_get.bind fun u => ?_
  cases (u.connections c).ambient with
  | some a => exact plain_error _
  | none => exact plain_pure _

theorem plain_beginNative (c : ConnectionId) (isolation : IsolationLevel)
    (serial : TransactionId) :
    Plain (beginNative .blocking c isolation serial : Attempt σ NativeTransaction) := by
  refine plain_get.bind fun u => (plain_lift _).bind fun logger => ?_
  cases logger with
  | none => exact plain_call _ _
  | some l =>
    refine (l.plain_transactionStarting _).bind fun offered => ?_
    have started := l.plain_transactionStarted ⟨c, serial, isolation, false⟩
    cases offered with
    | hasResult native => exact started native
    | noResult => exact Plain.bind (plain_call _ _) started

theorem plain_start (c : ConnectionId) (isolation : IsolationLevel) :
    Plain (start .blocking c isolation : Attempt σ (Transaction σ)) := by
  refine (plain_ensureNone c).bind fun _ => plain_checkpoint.bind fun _ => ?_
  refine c.plain_acquire.bind fun _ => (plain_lift _).bind fun serial => ?_
  refine (plain_beginNative c isolation ⟨serial⟩).outcomeThen fun begun plain => ?_
  cases begun with
  | ok native => exact plain_lift _
  | error failure => exact (plain_lift _).bind fun _ => plain_throw plain

theorem plain_adopt (c : ConnectionId) (native : NativeTransaction) :
    Plain (adopt .blocking c native : Attempt σ (Transaction σ)) := by
  refine (plain_ensureNone c).bind fun _ => c.plain_acquire.bind fun _ => ?_
  exact (plain_lift _).bind fun _ => (plain_trace _ _ _ _).bind fun _ => plain_lift _

variable (t : Transaction σ)

theorem yields_clear : Yields (fun x => x.1.Plain) (t.clear .blocking) := by
  refine .after _ fun _ => ?_
  split
  · exact .pure (Outcome.plain_ok _)
  · exact t.connection.yields_releaseOutcome.bind fun _ plain => .pure plain

theorem yields_complete (completion : Completion) :
    Yields (fun x => x.1.Plain) (t.complete .blocking completion) := by
  unfold complete
  split
  · exact .pure (Outcome.plain_error _)
  · refine .after _ fun u => Yields.bind (yields_call _ _) fun ended plain => ?_
    rcases ended with failure | _
    · cases failure with
      | error e => exact .after _ fun _ => .pure plain
      | cancelled reason => exact .pure plain
      | panicked message => exact .pure plain
    · exact .after _ fun _ => yields_clear _

theorem yields_abort : Yields Outcome.Plain (t.abort .blocking) := by
  unfold abort
  split
  · exact .after _ fun _ => yields_call _ _
  · exact .pure (Outcome.plain_ok _)

theorem yields_dispose : Yields (fun x => x.1.Plain) (t.dispose .blocking) := by
  unfold dispose
  split
  · exact .pure (Outcome.plain_ok _)
  · exact t.yields_abort.bind fun _ aborts =>
      (yields_clear _).bind fun _ clears => .pure (aborts.andThen clears)

end Transaction

omit [Driver σ] in
/-- The outcome that an answer reports, if any, is a value or an error. -/
def Answer.Plain : Answer σ → Prop
  | .done o => o.Plain
  | .flag o => o.Plain
  | .affected o => o.Plain
  | .scalar o => o.Plain
  | .value o => o.Plain
  | .name o => o.Plain
  | .begun o => o.Plain
  | .bound o => o.Plain
  | .created o _ => o.Plain
  | _ => True

omit [Driver σ] in
theorem Answer.plain_answer (b : Blur) (a : Answer σ) : (b.answer a).Plain ↔ a.Plain := by
  cases a with
  | begun o => exact Outcome.plain_map _
  | bound o => exact Outcome.plain_map _
  | _ => exact .rfl

omit [Driver σ] in
theorem Answer.plain_of_map_eq {b : Blur} {as as' : List (Answer σ)}
    (same : as.map b.answer = as'.map b.answer) (plain : ∀ a ∈ as', a.Plain) :
    ∀ a ∈ as, a.Plain := by
  intro a member
  have seen : b.answer a ∈ as'.map b.answer := same ▸ List.mem_map_of_mem member
  obtain ⟨a', member', alike⟩ := List.mem_map.1 seen
  rw [← plain_answer b, ← alike, plain_answer]
  exact plain a' member'

namespace Program

variable {w : Workspace σ} {name : String}

omit [Driver σ] in
theorem plain_withTransaction {act : Transaction σ → Program σ (Answer σ)}
    (each : ∀ t, (act t w).1.Plain) : (withTransaction name act w).1.Plain :=
  withTransaction_cases (P := fun x => x.1.Plain) trivial fun t _ => each t

omit [Driver σ] in
theorem plain_withCommand {act : Command σ → Program σ (Answer σ)}
    (each : ∀ c, (act c w).1.Plain) : (withCommand name act w).1.Plain :=
  withCommand_cases (P := fun x => x.1.Plain) trivial fun c _ => each c

omit [Driver σ] in
theorem plain_withReader {act : DataReader σ → Engine σ (Answer σ × DataReader σ)}
    (each : ∀ r, Yields (fun x => x.1.Plain) (act r)) : (withReader name act w).1.Plain :=
  plain_withCommand fun c => by
    cases c.reader with
    | none => exact trivial
    | some r => exact each r w.session

omit [Driver σ] in
theorem plain_lookAtReader {act : DataReader σ → Engine σ (Answer σ)}
    (each : ∀ r, Yields Answer.Plain (act r)) : (lookAtReader name act w).1.Plain :=
  plain_withReader fun r => (each r).bind fun _ plain => .pure plain

theorem plain_keepBegun {o : Outcome (Transaction σ)} (plain : o.Plain) :
    (keepBegun name o w).1.Plain := by
  cases o with
  | error failure => exact plain
  | ok t =>
    rw [keepBegun_ok]
    exact plain

end Program

namespace Operation

omit [Driver σ] in
/-- The operation in its blocking form. -/
def blocking : Operation σ → Operation σ
  | openNative c _ => openNative c .blocking
  | closeNative c _ => closeNative c .blocking
  | openConnection c _ => openConnection c .blocking
  | closeConnection c _ => closeConnection c .blocking
  | begin name c isolation _ => begin name c isolation .blocking
  | adopt name c native _ => adopt name c native .blocking
  | complete name completion _ => complete name completion .blocking
  | disposeTransaction name _ => disposeTransaction name .blocking
  | executeNonQuery name r _ => executeNonQuery name r .blocking
  | executeScalar name r _ => executeScalar name r .blocking
  | executeReader name r _ => executeReader name r .blocking
  | read name _ => read name .blocking
  | nextResult name _ => nextResult name .blocking
  | disposeReader name _ => disposeReader name .blocking
  | op => op

/-- A blocking operation ends with a value or an error. -/
theorem plain_blocking (op : Operation σ) (w : Workspace σ) : (op.blocking.perform w).1.Plain := by
  cases op with
  | openNative c mode => exact yields_call _ _ w.session
  | closeNative c mode => exact yields_call _ _ w.session
  | openConnection c mode => exact c.plain_acquire w.session
  | closeConnection c mode => exact c.plain_release w.session
  | begin name c isolation mode =>
    exact Program.plain_keepBegun (Transaction.plain_start c isolation w.session)
  | adopt name c native mode =>
    exact Program.plain_keepBegun (Transaction.plain_adopt c native w.session)
  | complete name completion mode =>
    exact Program.plain_withTransaction fun t => t.yields_complete completion w.session
  | disposeTransaction name mode =>
    exact Program.plain_withTransaction fun t => t.yields_dispose w.session
  | executeNonQuery name r mode =>
    exact Program.plain_withCommand fun c => c.statement.plain_executeOnce _ r w.session
  | executeScalar name r mode =>
    exact Program.plain_withCommand fun c => c.statement.plain_executeOnce _ r w.session
  | executeReader name r mode =>
    exact Program.plain_withCommand fun c => c.yields_executeReader r w.session
  | createCommand name method r =>
    exact Program.plain_withCommand fun c => c.statement.plain_prepare r _ _
  | read name mode =>
    exact Program.plain_withReader fun r => r.yields_read.bind fun _ plain => .pure plain
  | nextResult name mode =>
    exact Program.plain_withReader fun r => r.yields_nextResult.bind fun _ plain => .pure plain
  | getValue name ordinal =>
    exact Program.plain_lookAtReader fun r => .after _ fun _ => .pure (Outcome.plain_ofResult _)
  | isNull name ordinal =>
    exact Program.plain_lookAtReader fun r => .after _ fun _ => .pure (Outcome.plain_ofResult _)
  | columnName name ordinal =>
    exact Program.plain_lookAtReader fun r => .after _ fun _ => .pure (Outcome.plain_ofResult _)
  | drain name => exact Program.plain_withReader fun r => .after _ fun _ => .pure trivial
  | disposeReader name mode =>
    exact Program.plain_withReader fun r => r.yields_dispose.bind fun _ plain => .pure plain
  | dropTransaction name => exact Program.plain_withTransaction fun _ => trivial
  | dropCommand name => exact Program.plain_withCommand fun _ => trivial
  | populate name s => exact Program.plain_withCommand fun _ => trivial
  | declare name s =>
    change ((declare name s).perform w).1.Plain
    rw [declare_apply]
    exact trivial
  | limitTrace limit => exact trivial
  | setCancelled reason => exact trivial

end Operation

theorem Program.plain_run_blocking (ops : List (Operation σ)) (w : Workspace σ) :
    ∀ a ∈ (run (ops.map Operation.blocking) w).1, a.Plain := by
  induction ops generalizing w with
  | nil => exact fun a member => by cases member
  | cons op ops ih =>
    rw [List.map_cons, run_cons]
    exact List.forall_mem_cons.2 ⟨op.plain_blocking w, ih _⟩

end SqlExecution
