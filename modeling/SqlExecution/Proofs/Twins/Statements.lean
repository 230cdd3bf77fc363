import SqlExecution.Proofs.Course
import SqlExecution.Proofs.Twins.Connections
import SqlExecution.Proofs.Twins.Cursors

/-! Executing statements in two runs. What surrounds the calls to the driver depends on the logger:
where diagnostics are overlooked, a logger whose hooks pass through makes no difference to there
being none. -/

namespace SqlExecution

variable {σ α γ : Type}

open Session Trace

namespace Blur

theorem configure_eq {b : Blur} {k k' : Connection σ} (same : b.connection k = b.connection k')
    (text : String) (c : NativeCommand) : c.configure text k = c.configure text k' := by
  have ambient : k.ambient = k'.ambient := (congrArg Connection.ambient same :)
  have timeout : k.timeout = k'.timeout := (congrArg Connection.timeout same :)
  unfold NativeCommand.configure
  rw [ambient, timeout]

end Blur

/-- A shape that two runs can share: its result is shown from the scene alone, and its hooks and its
native operation are those of interceptors and drivers. -/
structure Shape.Uniform [Driver σ] (shape : Shape σ α) : Prop where
  shows {b : Blur} {heeds : Prop} (a : α) :
    Engine.Match b heeds id (shape.payload a) (shape.payload a)
  silent (a : α) (s : Session σ) : (shape.payload a s).2 = s
  hooks {i : CommandInterceptor σ} (even : i.Even) : (shape.around i).Even
  passes (name : String) : shape.around (.passThrough name) = .passThrough
  native (even : Driver.Even σ) (c : NativeCommand) : (shape.native c).Even

namespace Shape

variable [Driver σ]

theorem nonQuery_uniform : (nonQuery : Shape σ Int64).Uniform :=
  ⟨fun _ => .pure rfl, fun _ _ => rfl, fun even => even.nonQuery, fun _ => rfl,
    fun even => even.executeNonQuery⟩

theorem scalar_uniform : (scalar : Shape σ (Option Value)).Uniform :=
  ⟨fun _ => .pure rfl, fun _ _ => rfl, fun even => even.scalar, fun _ => rfl,
    fun even => even.executeScalar⟩

theorem reader_uniform : (reader : Shape σ Cursor).Uniform where
  shows c := c.match_fieldCount.andThen fun _ => .pure rfl
  silent _ _ := rfl
  hooks even := even.reader
  passes _ := rfl
  native even := even.executeReader

end Shape

variable [Driver σ] {b : Blur} {heeds : Prop} (even : b.forms = true → Driver.Even σ)
  {mode mode' : Mode} (forms : b.Forms heeds mode mode')

namespace NativeCommand

include even forms

theorem match_discard (c : NativeCommand) :
    Engine.Match b heeds id (c.discard mode : Engine σ (Outcome Unit)) (c.discard mode') := by
  refine (Engine.match_record rfl).andThen fun _ => Attempt.Match.seen ?_
  exact Attempt.match_call (by simp only [Blur.call, forms.same])
    (forms.perform fun overlooked => (even overlooked).dispose c.clear)

theorem match_cleanUp (id : ConnectionId) (c : NativeCommand) :
    Engine.Match b heeds (fun x => x) (c.cleanUp mode id : Engine σ (Outcome Unit))
      (c.cleanUp mode' id) :=
  (match_discard even forms c).andThen fun _ =>
    (ConnectionId.match_releaseOutcome even forms id).andThen fun _ => .pure rfl

end NativeCommand

namespace Statement

variable {logger logger' : Option (Logger σ)} (heard : b.Heard logger logger')
  {info info' : ExecutionInfo} (same : b.info info = b.info info')

omit [Driver σ] in
include forms heard same in
theorem match_reportFailure (c : NativeCommand) (e : Error) :
    Engine.Match b heeds id (reportFailure mode logger info c e)
      (reportFailure mode' logger' info' c e) := by
  cases heard.listeners with
  | neither => exact .pure rfl
  | both l shown hooks =>
    refine (ExecutionInfo.match_event shown same).bind fun event event' events => ?_
    exact Logger.match_commandFailed hooks events forms.same c e
  | first l overlooked still =>
    refine Engine.Match.skip info.obeys_event (info.idle_event overlooked) fun event => ?_
    exact .of_idle (l.reveals_commandFailed mode c event e)
      ((l.idle_commandFailed overlooked still c event e).mono fun _ _ => rfl)

section Releasing

include even forms heard same

theorem match_abandon (c : NativeCommand) (e : Error) (opened : Bool) :
    Engine.Match b heeds id (abandon mode logger info c e opened)
      (abandon mode' logger' info' c e opened) := by
  have connection : info.connection = info'.connection := (congrArg (·.connection) same :)
  rw [abandon_eq, abandon_eq]
  refine (match_reportFailure forms heard same c e).andThen fun _ => ?_
  unfold discharge
  rw [connection]
  refine (NativeCommand.match_discard even forms c).andThen fun disposed => ?_
  have complain : ∀ closed, Engine.Match b heeds id (do
      Engine.warn commandTarget "Cleanup after a failed command also failed"
        [connectionField info'.connection] disposed
      Engine.warn commandTarget "Cleanup after a failed command also failed"
        [connectionField info'.connection] closed : Engine σ Unit) _ := fun closed =>
    (Engine.match_warn _ _ _ disposed).andThen fun _ => Engine.match_warn _ _ _ closed
  exact .ite (fun _ => (ConnectionId.match_releaseOutcome even forms _).andThen complain)
    fun _ => Engine.Match.andThen (.pure rfl) complain

theorem match_giveUp {view : α → γ} (c : NativeCommand) (failure : Failure) (opened : Bool) :
    Attempt.Match b heeds view (giveUp mode logger info c failure opened : Attempt σ α)
      (giveUp mode' logger' info' c failure opened) :=
  (Attempt.match_lift (match_abandon even forms heard same c _ opened)).andThen fun _ =>
    Attempt.match_throw failure

end Releasing

section Obtaining

include same

theorem match_create :
    Attempt.Match b heeds id (create info : Attempt σ NativeCommand) (create info') := by
  have connection : info.connection = info'.connection := (congrArg (·.connection) same :)
  unfold create
  rw [connection]
  exact Attempt.match_callPlain _ _

include heard

theorem match_obtain :
    Attempt.Match b heeds id (obtain info logger) (obtain info' logger') := by
  have created : Attempt.Match b heeds id (create info : Attempt σ NativeCommand) (create info') :=
    match_create same
  cases heard.listeners with
  | neither => exact created.andThen fun _ => .pure rfl
  | both l shown hooks =>
    refine (Attempt.match_lift (ExecutionInfo.match_event shown same)).bind
      fun event event' events => ?_
    have rest : ∀ c, Attempt.Match b heeds id (Attempt.lift (l.commandCreated event c))
        (Attempt.lift (l.commandCreated event' c)) := fun c =>
      Attempt.match_lift (Logger.match_commandCreated hooks events c)
    refine (Logger.match_commandCreating hooks events).andThen fun offered => ?_
    cases offered with
    | hasResult c => exact rest c
    | noResult => exact created.andThen rest
  | first l overlooked still =>
    refine Attempt.Match.skip info.obeys_event (info.idle_event overlooked) fun event => ?_
    have rest : ∀ c, Attempt.Match b heeds id (Attempt.lift (l.commandCreated event c))
        (pure (c, .ok ())) := fun c =>
      Attempt.match_lift (.of_idle (l.reveals_commandCreated event c)
        (l.idle_commandCreated overlooked still event c))
    refine Attempt.Match.idleThen (l.reveals_commandCreating event)
      (l.idle_commandCreating overlooked still event) (fun offered => ?_) (created.andThen rest)
    cases offered with
    | hasResult c => exact (rest c).reveals
    | noResult => exact (created.andThen rest).reveals

end Obtaining

section Executing

variable {r : Request σ} (suits : ∀ l ∈ r.logger, b.Suits l) (s : Statement)

omit [Driver σ] in
include suits in
theorem heard_request : b.Heard r.logger (b.request r).logger := ⟨suits, rfl⟩

section Preparing
include even forms suits same

omit suits in
include heard in
theorem match_fit (c : NativeCommand) :
    Attempt.Match b heeds id (s.fit mode r logger info c)
      (s.fit mode' (b.request r) logger' info' c) := by
  refine Attempt.match_get.bind fun u u' alike => ?_
  have configured := Blur.configure_eq (Blur.connection_eq alike r.connection) s.text c
  have connection : (b.request r).connection = r.connection := rfl
  rw [connection, configured]
  have values : (b.request r).values = r.values := rfl
  rw [values]
  cases (s.bind r.values).result with
  | error e => exact (match_giveUp even forms heard same _ _ false).andThen fun _ => .pure rfl
  | ok _ => exact .pure rfl

theorem match_prepare :
    Attempt.Match b heeds id (s.prepare mode r info) (s.prepare mode' (b.request r) info') := by
  refine Attempt.match_get.bind fun u u' alike => ?_
  have limits (shown : b.diagnostics = false) : u.traceLimit = u'.traceLimit :=
    Blur.traceLimit_eq alike shown
  have reporting := (heard_request suits).filter (p := fun l =>
    l.raisesCreate u.traceLimit || l.raisesExecute u.traceLimit) fun shown => by rw [limits shown]
  have creating := (heard_request suits).filter (p := fun l => l.raisesCreate u.traceLimit)
    fun shown => by rw [limits shown]
  refine (match_obtain creating same).andThen fun obtained => ?_
  obtain ⟨c, hooked⟩ := obtained
  have fitted := match_fit even forms reporting same (r := r) s c
  cases hooked with
  | error e =>
    exact (match_giveUp even forms reporting same c (.error e) false).andThen fun _ => fitted
  | ok _ => exact fitted

end Preparing

section Running

variable {shape : Shape σ α} (uniform : shape.Uniform)
include even forms uniform

section Reaching
include heard same

theorem match_run (c : NativeCommand) :
    Attempt.Match b heeds id (run shape mode logger info c)
      (run shape mode' logger' info' c) := by
  have native : Attempt.Match b heeds id
      (Attempt.call (.execute shape.method c mode) mode (shape.native c))
      (Attempt.call (.execute shape.method c mode') mode' (shape.native c)) :=
    Attempt.match_call (by simp only [Blur.call, forms.same])
      (forms.perform fun overlooked => uniform.native (even overlooked) c)
  unfold run
  refine (Attempt.match_checkpoint forms).andThen fun _ => ?_
  cases heard.listeners with
  | neither => exact native
  | both l shown even =>
    have hooks (overlooked : b.forms = true) :
        ∀ i ∈ l.commandInterceptors, (shape.around i).Even := fun i member =>
      uniform.hooks ((even overlooked).command i member)
    refine (Attempt.match_lift (ExecutionInfo.match_event shown same)).bind
      fun event event' events => ?_
    have rest : ∀ a, Attempt.Match b heeds id
        (l.executed mode shape.around shape.payload c event a)
        (l.executed mode' shape.around shape.payload c event' a) :=
      Logger.match_executed events forms hooks uniform.shows c
    refine (Logger.match_executing events forms hooks uniform.shows c).andThen fun offered => ?_
    cases offered with
    | hasResult a => exact rest a
    | noResult =>
      exact (Attempt.match_checkpoint forms).andThen fun _ => native.andThen rest
  | first l overlooked still =>
    have heed (async : mode = .async) : heeds := forms.heeds (.inl async)
    refine Attempt.Match.skip info.obeys_event (info.idle_event overlooked) fun event => ?_
    have rest : ∀ a, Attempt.Match b heeds id
        (l.executed mode shape.around shape.payload c event a) (pure a) := fun a =>
      .of_idle (l.reveals_executed mode uniform.shows c event a)
        (l.idle_executed overlooked still heed uniform.passes uniform.silent c event a)
    have performs : Attempt.Match b heeds id (do
        Attempt.checkpoint mode
        let a ← Attempt.call (.execute shape.method c mode) mode (shape.native c)
        l.executed mode shape.around shape.payload c event a)
        (Attempt.call (.execute shape.method c mode') mode' (shape.native c)) := by
      rw [← bind_pure (Attempt.call (.execute shape.method c mode') mode' (shape.native c))]
      refine Attempt.Match.idleThen (a := ⟨⟩) (Attempt.obeys_checkpoint mode)
        ((Attempt.idle_checkpoint heed).mono fun _ _ => rfl) (fun _ => ?_) (native.andThen rest)
      exact (native.andThen rest).reveals
    refine Attempt.Match.idleThen (l.reveals_executing mode uniform.shows c event)
      (l.idle_executing overlooked still heed uniform.passes uniform.silent c event)
      (fun offered => ?_) performs
    cases offered with
    | hasResult a => exact (rest a).reveals
    | noResult => exact performs.reveals

theorem match_carryOut (c : NativeCommand) :
    Attempt.Match b heeds b.execution (carryOut shape mode logger info c)
      (carryOut shape mode' logger' info' c) := by
  refine (match_run even forms heard same uniform c).outcomeThen fun o => ?_
  cases o with
  | ok output => exact .pure (by simp only [Blur.execution, same])
  | error failure => exact match_giveUp even forms heard same c failure true

end Reaching

omit uniform in
theorem match_openFor (id : ConnectionId) :
    Attempt.Match b heeds (fun x => x) (openFor mode id : Attempt σ Bool) (openFor mode' id) :=
  (Attempt.match_checkpoint forms).andThen fun _ => ConnectionId.match_acquire even forms id

include suits

theorem match_execute :
    Attempt.Match b heeds b.execution (s.execute shape mode r)
      (s.execute shape mode' (b.request r)) := by
  refine Attempt.Match.andThen (Attempt.match_ofOutcome rfl) fun _ => ?_
  refine (Attempt.match_checkpoint forms).andThen fun _ => ?_
  refine (Attempt.match_lift Engine.match_newTicket).andThen fun ticket => ?_
  have same : b.info (r.info ticket shape.method mode) =
      b.info ((b.request r).info ticket shape.method mode') := by
    simp only [Blur.info, Request.info, Blur.request, forms.same]
  refine Attempt.match_raising _ (heard_request suits) fun l l' heard => ?_
  refine (match_prepare even forms same suits s).andThen fun c => ?_
  refine (match_openFor even forms r.connection).outcomeThen fun opened => ?_
  have carried := match_carryOut even forms heard same uniform c
  cases opened with
  | ok _ => exact carried
  | error failure =>
    exact (match_giveUp even forms heard same c failure false).andThen fun _ => carried

theorem match_executeOnce :
    Attempt.Match b heeds id (s.executeOnce shape mode r)
      (s.executeOnce shape mode' (b.request r)) := by
  refine (match_execute even forms suits s uniform).bind fun e e' executions => ?_
  have output : e.output = e'.output := (congrArg Execution.output executions :)
  have command : e.command = e'.command := (congrArg Execution.command executions :)
  rw [output, command]
  have cleaned := NativeCommand.match_cleanUp even forms r.connection e'.command
  refine (Attempt.match_lift cleaned).andThen fun o => ?_
  exact Attempt.Match.andThen (Attempt.match_ofOutcome rfl) fun _ => .pure rfl

end Running

include even suits

theorem match_openCursor (forms : b.Forms heeds mode mode') :
    Attempt.Match b heeds b.binding (s.openCursor mode r) (s.openCursor mode' (b.request r)) := by
  refine (match_execute even forms suits s Shape.reader_uniform).bind fun e e' executions => ?_
  obtain ⟨cursor, c, info⟩ := e
  obtain ⟨cursor', c', info'⟩ := e'
  simp only [Blur.execution, Execution.mk.injEq] at executions
  obtain ⟨rfl, rfl, infos⟩ := executions
  have bindings : ∀ x, b.binding ⟨c, x, r.logger, info⟩ =
      b.binding ⟨c, x, (b.request r).logger, info'⟩ := fun x => by
    simp only [Blur.binding, infos, (heard_request suits).logger]
  have columns : (b.request r).columns = r.columns := rfl
  dsimp only
  rw [columns]
  cases r.columns with
  | none => exact .pure (bindings _)
  | some columns =>
    refine (cursor.match_load even forms columns r.detailedErrors).outcomeThen fun loaded => ?_
    cases loaded with
    | ok buffer => exact .pure (bindings _)
    | error failure =>
      have cleaned := NativeCommand.match_cleanUp even forms r.connection c
      refine (Attempt.match_lift (cleaned.andThen fun o => Engine.match_warn _ _ _ o)).andThen
        fun _ => Attempt.match_throw failure

theorem match_createCommand (method : Method) :
    Engine.Match b heeds (Prod.map id (b.detail none)) (s.createCommand method r)
      (s.createCommand method (b.request r)) := by
  refine Engine.match_newTicket.andThen fun ticket => ?_
  have same : b.info (r.info ticket method .blocking) =
      b.info ((b.request r).info ticket method .blocking) := rfl
  refine (match_prepare even Blur.forms_blocking same suits s).seen.andThen fun o => ?_
  refine Engine.match_get.bind fun u u' alike => .pure ?_
  exact congrArg (Prod.mk o) (congrArg (fun u : Session σ => u.commandIds ticket) alike :)

end Executing

end Statement

end SqlExecution
