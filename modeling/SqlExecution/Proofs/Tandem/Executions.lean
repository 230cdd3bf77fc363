import SqlExecution.Proofs.GovernedCalls
import SqlExecution.Proofs.Tandem.Drivers
import SqlExecution.Proofs.Tandem.Events

/-! Executing a statement in tandem: with values that are bound to commands alike, both runs take
the same course and fail in the same way. -/

namespace SqlExecution

variable {σ α β γ δ : Type}

open Session Trace

namespace Statement

variable [Driver σ]

/-- An execution from where it has settled what it needs besides the command. -/
def proceed (shape : Shape σ α) (s : Statement) (mode : Mode) (r : Request σ)
    (setting : Setting σ) : Attempt σ (Execution α) := do
  let c ← s.prepare mode r setting.info
  if let .error failure ← (openFor mode r.connection).outcome then
    giveUp mode setting.logger setting.info c failure false
  carryOut shape mode setting.logger setting.info c

theorem execute_eq_proceed (shape : Shape σ α) (s : Statement) (mode : Mode) (r : Request σ) :
    s.execute shape mode r = s.enter shape.method mode r >>= s.proceed shape mode r :=
  execute_eq shape s mode r

end Statement

namespace Tandem

/-- One way to execute, for which the driver and the hooks do the same in both runs. -/
structure Shapes [Driver σ] (t : Tandem σ) (shape : Shape σ α) : Prop where
  quiet : shape.Quiet
  native {c c' : NativeCommand} (alike : t.commands c c') (mode : Mode) :
    Act.Alike t.scenes Eq ((shape.native c).perform mode) ((shape.native c').perform mode)
  around {i : CommandInterceptor σ} (suits : t.SuitsHooks i) : t.SuitsAround (shape.around i)

/-- Requests of the two runs: they differ in nothing but their values, and these are bound alike. -/
structure Requests (t : Tandem σ) (s : Statement) (r r' : Request σ) : Prop where
  same : r' = { r with values := r'.values }
  validate : s.validate r'.values = s.validate r.values
  result : (s.bind r'.values).result = (s.bind r.values).result
  added {c c' : NativeCommand} (alike : t.commands c c') :
    t.commands (c.addParameters (s.bind r.values).added)
      (c'.addParameters (s.bind r'.values).added)
  suits : ∀ l ∈ r.logger, t.Suits l

theorem requests_of_eq {t : Tandem σ} (scenes : t.scenes = Eq) (commands : t.commands = Eq)
    (s : Statement) (r : Request σ) : t.Requests s r r where
  same := rfl
  validate := rfl
  result := rfl
  added alike := by
    rw [commands] at alike ⊢
    rw [alike]
  suits l _ := suits_of_eq scenes commands l

/-- What the two executions end with: the same, but for their commands. -/
structure Executions (t : Tandem σ) (x x' : Execution α) : Prop where
  output : x'.output = x.output
  commands : t.commands x.command x'.command
  info : x'.info = x.info

/-- Bindings of the two runs: the same, but for their commands. -/
structure Bindings (t : Tandem σ) (b b' : ReaderBinding σ) : Prop where
  commands : t.commands b.command b'.command
  same : b' = { b with command := b'.command }
  suits : ∀ l ∈ b.logger, t.Suits l

section Shapes

variable [Driver σ] {t : Tandem σ} (answers : t.Answers)
include answers

theorem shapes_nonQuery : t.Shapes Shape.nonQuery :=
  ⟨fun _ _ => rfl, answers.executeNonQuery, (·.nonQuery)⟩

theorem shapes_scalar : t.Shapes Shape.scalar :=
  ⟨fun _ _ => rfl, answers.executeScalar, (·.scalar)⟩

theorem shapes_reader : t.Shapes Shape.reader :=
  ⟨fun _ _ => rfl, answers.executeReader, (·.reader)⟩

end Shapes

variable [Driver σ] {t : Tandem σ} (watches : t.Watches) (answers : t.Answers)
include watches answers

section Releasing

variable {c c' : NativeCommand} (alike : t.commands c c')
include alike

theorem runs_discard (mode : Mode) : t.Runs Eq (c.discard mode) (c'.discard mode) := by
  have cleared : t.Runs Eq (Engine.record (.native (.clearParameters c)))
      (Engine.record (.native (.clearParameters c'))) := runs_record watches rfl rfl (.inl trivial)
  exact cleared.andThen fun _ =>
    (tries_callSame watches (answers.dispose (answers.clear alike) mode)).seen

theorem runs_cleanUp (mode : Mode) (id : ConnectionId) :
    t.Runs Eq (c.cleanUp mode id) (c'.cleanUp mode id) :=
  (runs_discard watches answers alike mode).andThen fun _ =>
    (runs_releaseOutcome watches answers mode id).andThen fun _ => .pure rfl

theorem runs_discharge (mode : Mode) (info : ExecutionInfo) (opened : Bool) :
    t.Runs Eq (Statement.discharge mode info c opened)
      (Statement.discharge mode info c' opened) := by
  have warned : ∀ o : Outcome Unit, t.Runs Eq
      (Engine.warn commandTarget "Cleanup after a failed command also failed"
        [connectionField info.connection] o)
      (Engine.warn commandTarget "Cleanup after a failed command also failed"
        [connectionField info.connection] o) := fun o => runs_warn watches _ _ rfl o
  refine (runs_discard watches answers alike mode).andThen fun disposed => ?_
  cases opened with
  | false => exact (warned disposed).andThen fun _ => .pure rfl
  | true =>
    exact (runs_releaseOutcome watches answers mode info.connection).andThen fun closed =>
      (warned disposed).andThen fun _ => warned closed

variable {info : ExecutionInfo} {logger : Option (Logger σ)} (may : ∀ l ∈ logger, t.infos info)
  (suits : ∀ l ∈ logger, t.Suits l)
include may suits

omit [Driver σ] answers in
theorem runs_reportFailure (mode : Mode) (e : Error) :
    t.Runs Eq (Statement.reportFailure mode logger info c e)
      (Statement.reportFailure mode logger info c' e) := by
  cases logger with
  | none => exact .pure rfl
  | some l =>
    refine (runs_event watches (may l rfl)).bind fun event event' same => ?_
    obtain ⟨same, allowed⟩ := same
    cases same
    exact runs_commandFailed watches allowed (suits l rfl) alike mode e

theorem runs_abandon (mode : Mode) (e : Error) (opened : Bool) :
    t.Runs Eq (Statement.abandon mode logger info c e opened)
      (Statement.abandon mode logger info c' e opened) := by
  rw [Statement.abandon_eq, Statement.abandon_eq]
  exact (runs_reportFailure watches alike may suits mode e).andThen fun _ =>
    runs_discharge watches answers alike mode info opened

theorem tries_giveUp {V : γ → δ → Prop} (mode : Mode) (failure : Failure) (opened : Bool) :
    t.Tries V (Statement.giveUp mode logger info c failure opened)
      (Statement.giveUp mode logger info c' failure opened) :=
  (Tries.lift (runs_abandon watches answers alike may suits mode failure.toError opened)).andThen
    fun _ => .throw failure

end Releasing

section Preparing

variable {info : ExecutionInfo}

theorem tries_create :
    t.Tries t.commands (Statement.create info : Attempt σ _) (Statement.create info) :=
  tries_callPlain watches (answers.createCommand info.connection)

theorem tries_obtain {logger : Option (Logger σ)} (may : ∀ l ∈ logger, t.infos info)
    (suits : ∀ l ∈ logger, t.Suits l) :
    t.Tries (fun x x' => t.commands x.1 x'.1 ∧ x'.2 = x.2) (Statement.obtain info logger)
      (Statement.obtain info logger) := by
  cases logger with
  | none => exact (tries_create watches answers).bind fun c c' alike => .pure ⟨alike, rfl⟩
  | some l =>
    have created : ∀ {event : CommandEvent}, t.events event → ∀ {c c' : NativeCommand},
        t.commands c c' → t.Tries (fun x x' => t.commands x.1 x'.1 ∧ x'.2 = x.2)
          (Attempt.lift (l.commandCreated event c)) (Attempt.lift (l.commandCreated event c')) :=
      fun allowed _ _ alike => .lift (runs_commandCreated watches allowed (suits l rfl) alike)
    unfold Statement.obtain
    refine (Tries.lift (runs_event watches (may l rfl))).bind fun event event' same => ?_
    obtain ⟨same, allowed⟩ := same
    cases same
    refine (tries_commandCreating watches allowed (suits l rfl)).bind fun i i' offered => ?_
    cases i <;> cases i'
    · exact (tries_create watches answers).bind fun c c' => created allowed
    · cases offered
    · cases offered
    · exact created allowed offered

theorem tries_fit (may : t.infos info) {s : Statement} {r r' : Request σ}
    (requests : t.Requests s r r') (mode : Mode) {reporting : Option (Logger σ)}
    (suits : ∀ l ∈ reporting, t.Suits l) {c c' : NativeCommand} (alike : t.commands c c') :
    t.Tries t.commands (s.fit mode r reporting info c) (s.fit mode r' reporting info c') := by
  have same : r'.connection = r.connection := by rw [requests.same]
  refine .get fun v v' meets => ?_
  rw [same, meets.connections, requests.result]
  have added := requests.added (answers.configure alike s.text (v.connections r.connection))
  cases (s.bind r.values).result with
  | ok _ => exact .pure added
  | error e =>
    exact (tries_giveUp (V := Eq) watches answers added (fun _ _ => may) suits mode _
      false).andThen fun _ => .pure added

theorem tries_prepare (may : t.infos info) {s : Statement} {r r' : Request σ}
    (requests : t.Requests s r r') (mode : Mode) :
    t.Tries t.commands (s.prepare mode r info) (s.prepare mode r' info) := by
  have suits : ∀ p : Logger σ → Bool, ∀ l ∈ r.logger.filter p, t.Suits l := fun p l member =>
    requests.suits l (Option.mem_filter_iff.1 member).1
  have logger : r'.logger = r.logger := by rw [requests.same]
  unfold Statement.prepare
  rw [logger]
  refine .get fun u u' meets => ?_
  rw [meets.traceLimit]
  refine (tries_obtain watches answers (fun _ _ => may) (suits _)).bind fun x x' same => ?_
  obtain ⟨c, hooked⟩ := x
  obtain ⟨c', hooked'⟩ := x'
  obtain ⟨alike, same⟩ := same
  cases same
  have fitted : t.Tries t.commands
      (s.fit mode r (r.logger.filter fun l =>
        l.raisesCreate u.traceLimit || l.raisesExecute u.traceLimit) info c)
      (s.fit mode r' (r.logger.filter fun l =>
        l.raisesCreate u.traceLimit || l.raisesExecute u.traceLimit) info c') :=
    tries_fit watches answers may requests mode (suits _) alike
  cases hooked with
  | ok _ => exact fitted
  | error e =>
    exact (tries_giveUp (V := Eq) watches answers alike (fun _ _ => may) (suits _) mode _
      false).andThen fun _ => fitted

end Preparing

theorem tries_openFor (mode : Mode) (id : ConnectionId) :
    t.Tries Eq (Statement.openFor mode id) (Statement.openFor mode id) :=
  (tries_checkpoint watches mode).andThen fun _ => tries_acquire watches answers mode id

section Running

variable {shape : Shape σ α} (shapes : t.Shapes shape)
include shapes

omit answers in
theorem tries_run {info : ExecutionInfo} {logger : Option (Logger σ)}
    (may : ∀ l ∈ logger, t.infos info) (suits : ∀ l ∈ logger, t.Suits l) {c c' : NativeCommand}
    (alike : t.commands c c') (mode : Mode) :
    t.Tries Eq (Statement.run shape mode logger info c)
      (Statement.run shape mode logger info c') := by
  have native : t.Tries Eq (Attempt.call (.execute shape.method c mode) mode (shape.native c))
      (Attempt.call (.execute shape.method c' mode) mode (shape.native c')) :=
    tries_callSame watches (shapes.native alike mode)
  refine (tries_checkpoint watches mode).andThen fun _ => ?_
  cases logger with
  | none => exact native
  | some l =>
    refine (Tries.lift (runs_event watches (may l rfl))).bind fun event event' same => ?_
    obtain ⟨same, allowed⟩ := same
    cases same
    have hooks : ∀ i ∈ l.commandInterceptors, t.SuitsAround (shape.around i) :=
      fun i member => shapes.around ((suits l rfl).hooks i member)
    have executed : ∀ result, t.Tries Eq
        (l.executed mode shape.around shape.payload c event result)
        (l.executed mode shape.around shape.payload c' event result) :=
      tries_executed watches allowed (suits l rfl) alike shapes.quiet hooks
    refine (tries_executing watches allowed (suits l rfl) alike shapes.quiet hooks).andThen
      fun offered => ?_
    cases offered with
    | hasResult a => exact executed a
    | noResult =>
      exact (tries_checkpoint watches mode).andThen fun _ => native.andThen executed

theorem tries_carryOut {info : ExecutionInfo} (may : t.infos info) {logger : Option (Logger σ)}
    (suits : ∀ l ∈ logger, t.Suits l) {c c' : NativeCommand} (alike : t.commands c c') (mode : Mode) :
    t.Tries t.Executions (Statement.carryOut shape mode logger info c)
      (Statement.carryOut shape mode logger info c') := by
  refine (tries_run watches shapes (fun _ _ => may) suits alike mode).outcomeThen fun o => ?_
  cases o with
  | ok output => exact .pure ⟨rfl, alike, rfl⟩
  | error failure =>
    exact tries_giveUp watches answers alike (fun _ _ => may) suits mode failure true

variable {s : Statement} {r r' : Request σ} (requests : t.Requests s r r')
include requests

theorem tries_proceed (mode : Mode) {setting : Setting σ} (may : t.infos setting.info)
    (suits : ∀ l ∈ setting.logger, t.Suits l) :
    t.Tries t.Executions (s.proceed shape mode r setting) (s.proceed shape mode r' setting) := by
  have same : r'.connection = r.connection := by rw [requests.same]
  unfold Statement.proceed
  rw [same]
  refine (tries_prepare watches answers may requests mode).bind fun c c' alike => ?_
  refine (tries_openFor watches answers mode r.connection).outcomeThen fun o => ?_
  have ran := tries_carryOut watches answers shapes may suits alike mode
  cases o with
  | ok _ => exact ran
  | error failure =>
    exact (tries_giveUp (V := Eq) watches answers alike (fun _ _ => may) suits mode failure
      false).andThen fun _ => ran

omit [Driver σ] answers shapes in
theorem tries_enter (method : Method) (mode : Mode) :
    t.Tries (fun x x' => x' = x ∧ ∀ l ∈ x.logger, t.Suits l) (s.enter method mode r)
      (s.enter method mode r') := by
  unfold Statement.enter
  rw [requests.validate]
  refine (Tries.ofOutcome (V := Eq) (sameEnd_refl (fun _ => rfl) _)).andThen fun _ => ?_
  refine (tries_checkpoint watches mode).andThen fun _ => ?_
  refine (Tries.lift (runs_newTicket watches)).andThen fun ticket => ?_
  rw [requests.same]
  exact tries_raising _ fun raised asked =>
    .pure ⟨rfl, fun l member => requests.suits l (asked l member)⟩

theorem tries_execute (ever : ∀ info, t.infos info) (mode : Mode) :
    t.Tries t.Executions (s.execute shape mode r) (s.execute shape mode r') := by
  rw [Statement.execute_eq_proceed, Statement.execute_eq_proceed]
  refine (tries_enter watches requests _ mode).bind fun setting setting' same => ?_
  obtain ⟨same, suits⟩ := same
  cases same
  exact tries_proceed watches answers shapes requests mode (ever _) suits

end Running

theorem tries_concluding (mode : Mode) {r r' : Request σ} (same : r'.connection = r.connection)
    {x x' : Execution α} (output : x'.output = x.output) (alike : t.commands x.command x'.command) :
    t.Tries Eq (Statement.concluding mode r x) (Statement.concluding mode r' x') := by
  unfold Statement.concluding
  rw [same, output]
  have cleaned := runs_cleanUp watches answers alike mode r.connection
  exact (Tries.lift cleaned).andThen fun o =>
    (Tries.ofOutcome (V := Eq) (sameEnd_refl (fun _ => rfl) o)).andThen fun _ => .pure rfl

theorem tries_delivering {s : Statement} (mode : Mode) {r r' : Request σ}
    (requests : t.Requests s r r') {x x' : Execution Cursor} (executions : t.Executions x x') :
    t.Tries t.Bindings (Statement.delivering mode r x) (Statement.delivering mode r' x') := by
  obtain ⟨cursor, c, info⟩ := x
  obtain ⟨cursor', c', info'⟩ := x'
  obtain ⟨same, alike, sameInfo⟩ := executions
  cases same
  cases sameInfo
  unfold Statement.delivering
  rw [requests.same]
  cases r.columns with
  | none => exact .pure ⟨alike, rfl, requests.suits⟩
  | some columns =>
    refine (tries_load watches answers cursor mode columns r.detailedErrors).outcomeThen
      fun loaded => ?_
    cases loaded with
    | ok buffer => exact .pure ⟨alike, rfl, requests.suits⟩
    | error failure =>
      have cleaned := runs_cleanUp watches answers alike mode r.connection
      have warned := cleaned.andThen fun o => runs_warn watches commandTarget
        "Failed to clean up command after a reader error"
        (show [connectionField r.connection].lookup "command_id" = none from rfl) o
      exact (Tries.lift warned).andThen fun _ => .throw failure

end Tandem

end SqlExecution
