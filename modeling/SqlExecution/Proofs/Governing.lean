import SqlExecution.Proofs.Beginning
import SqlExecution.Proofs.Relays

/-! What the hooks around an operation govern: the creating and created hooks how a native command
is created, the executing and executed hooks how it is executed, and the starting and started hooks
how a transaction is begun. -/

namespace SqlExecution

variable {σ α : Type}

open Session

/-- Whom an event is raised to; without a logger that raises it, to nobody. -/
def Logger.hearers (raised : Option (Logger σ)) : List (CommandInterceptor σ) :=
  raised.elim [] (·.commandInterceptors)

def Logger.transactionHearers (raised : Option (Logger σ)) : List (TransactionInterceptor σ) :=
  raised.elim [] (·.transactionInterceptors)

/-- The event of an execution that has this identifier. -/
def ExecutionInfo.eventAs (info : ExecutionInfo) (id : CommandId) : CommandEvent :=
  ⟨info.context, info.connection, id, info.method, info.source, info.mode.isAsync⟩

theorem ExecutionInfo.event_apply (info : ExecutionInfo) (s : Session σ) :
    ∃ id t, info.event s = (info.eventAs id, t) ∧ Unnoticed s t :=
  ⟨_, _, rfl, info.obeys_event s⟩

section Created

/-- The event after a command was created. A hook that fails leaves a command all the same. -/
def Round.created (event : CommandEvent) :
    Round σ (CommandInterceptor σ) NativeCommand (NativeCommand × Error) where
  stops _ := .ok ()
  notes i c _ := .hook ⟨i.name, i.coverage, .commandCreated, .blocking, .command event (some c),
    .nothing⟩
  hook i c scene :=
    match i.created event c scene with
    | ((c, .ok ()), scene) => (.ok c, scene)
    | ((c, .error e), scene) => (.error (c, e), scene)

/-- What the created hooks hand on: the command, and whether they succeeded. -/
def NativeCommand.hooked :
    Except (NativeCommand × Error) NativeCommand → NativeCommand × Result Unit
  | .ok c => (c, .ok ())
  | .error (c, e) => (c, .error e)

theorem Logger.foldCreated_cons_apply (event : CommandEvent) (i : CommandInterceptor σ)
    (rest : List (CommandInterceptor σ)) (c : NativeCommand) (s : Session σ) :
    foldCreated event (i :: rest) c s =
      match (Round.created event).hook i c s.scene with
      | (.ok d, scene) => foldCreated event rest d
          { s.noted ((Round.created event).notes i c s.scene) with scene }
      | (.error f, scene) => (NativeCommand.hooked (.error f),
          { s.noted ((Round.created event).notes i c s.scene) with scene }) := by
  have delivers : delivery i .commandCreated .blocking event (some c) .nothing s =
      ((), s.noted (.hook ⟨i.name, i.coverage, .commandCreated, .blocking,
        .command event (some c), .nothing⟩)) := rfl
  have acts : ∀ t : Session σ, Engine.act (i.created event c) t =
      ((i.created event c t.scene).1, { t with scene := (i.created event c t.scene).2 }) :=
    fun _ => rfl
  rw [foldCreated, Engine.bind_apply, delivers, Engine.bind_apply, acts]
  dsimp only [Round.created, noted]
  rcases i.created event c s.scene with ⟨⟨d, _ | _⟩, scene⟩ <;> rfl

theorem Logger.foldCreated_relays (event : CommandEvent) (is : List (CommandInterceptor σ))
    (c : NativeCommand) (s : Session σ) :
    ∃ ms o, Relays (.created event) is c s ms o (foldCreated event is c s).2 ∧
      (foldCreated event is c s).1 = NativeCommand.hooked o := by
  induction is generalizing c s with
  | nil => exact ⟨[], .ok c, ⟨.done, .of_journal_eq rfl⟩, rfl⟩
  | cons i rest ih =>
    rw [foldCreated_cons_apply]
    rcases acts : (Round.created event).hook i c s.scene with ⟨f | d, scene⟩
    · exact ⟨_, .error f, .singleton rfl rfl acts, rfl⟩
    · obtain ⟨ms, o, later, hands⟩ :=
        ih d { s.noted ((Round.created event).notes i c s.scene) with scene }
      exact ⟨_, o, .cons rfl rfl acts later, hands⟩

theorem Logger.commandCreated_relays (l : Logger σ) (event : CommandEvent) (c : NativeCommand)
    (s : Session σ) :
    ∃ ms o, Relays (.created event) l.commandInterceptors c s ms o (l.commandCreated event c s).2 ∧
      (l.commandCreated event c s).1 = NativeCommand.hooked o := by
  unfold commandCreated
  rw [Engine.bind_apply]
  obtain ⟨ms, o, relays, hands⟩ := foldCreated_relays event l.commandInterceptors c
    (Engine.trace .debug Trace.commandTarget
      ("Created DbCommand for '" ++ event.method.verb ++ "' " ++ Trace.elapsed)
      (Trace.commandFields event) s).2
  exact ⟨ms, o, relays.after (Engine.obeys_trace _ _ _ _ s), hands⟩

end Created

theorem Attempt.relays_traced {ι : Type} {round : Round σ ι α Failure} {is : List ι} {a : α}
    {m : Attempt σ α} {level : TraceLevel} {target message : String}
    {fields : List (String × TraceValue)}
    (relays : ∀ s, ∃ ms, Relays round is a s ms (m.observe s).1 (m.observe s).2) (s : Session σ) :
    ∃ ms, Relays round is a s ms
      ((do Attempt.trace level target message fields; m : Attempt σ α).observe s).1
      ((do Attempt.trace level target message fields; m : Attempt σ α).observe s).2 := by
  obtain ⟨ms, relays⟩ := relays (Engine.trace level target message fields s).2
  exact ⟨ms, relays.after (Engine.obeys_trace _ _ _ _ s)⟩

namespace Guarded

variable [Driver σ]

/-- Creating a native command. -/
def creation (event : CommandEvent) :
    Guarded σ (CommandInterceptor σ) NativeCommand Failure (NativeCommand × Error) where
  before := .ofDual .blocking false
    (fun i r _ => .hook ⟨i.name, i.coverage, .commandCreating, .blocking, .command event none,
      .offered (r.map .command)⟩)
    (fun i r => .ofBlocking (i.creating event r))
  stops _ := .ok ()
  call := .createCommand event.connection
  native scene := (Outcome.ofResult (Driver.createCommand event.connection scene).1,
    (Driver.createCommand event.connection scene).2)
  after := .created event

/-- Beginning a native transaction; nothing stops it between its hooks. -/
def beginning (mode : Mode) (event : TransactionEvent) :
    Guarded σ (TransactionInterceptor σ) NativeTransaction Failure Failure where
  before := .ofDual mode true
    (fun i r _ => .hook ⟨i.name, i.coverage, .transactionStarting, mode, .transaction event,
      .offered (r.map .transaction)⟩)
    (fun i r => i.starting event r)
  stops _ := .ok ()
  call := .begin event.connection mode event.isolation
  native := (Driver.begin event.connection event.isolation).perform mode
  after := .ofDual mode false
    (fun i t _ => .hook ⟨i.name, i.coverage, .transactionStarted, mode, .transaction event,
      .given (.transaction t)⟩)
    (fun i t => i.started event t)

end Guarded

namespace Shape

/-- How a result is shown to the hooks. -/
def shown (shape : Shape σ α) (a : α) (scene : Scene σ) : Payload := (shape.payload a { scene }).1

/-- To show a result, only the scene is looked at. -/
def Plain (shape : Shape σ α) : Prop := ∀ a s, shape.payload a s = (shape.shown a s.scene, s)

theorem nonQuery_plain [Driver σ] : (nonQuery : Shape σ Int64).Plain := fun _ _ => rfl

theorem scalar_plain [Driver σ] : (scalar : Shape σ (Option Value)).Plain := fun _ _ => rfl

theorem reader_plain [Driver σ] : (reader : Shape σ Cursor).Plain := fun _ _ => rfl

/-- Executing a command; an asynchronous execution may be stopped before each hook and before the
driver is called. -/
def execution (shape : Shape σ α) (mode : Mode) (c : NativeCommand) (event : CommandEvent) :
    Guarded σ (CommandInterceptor σ) α Failure Failure where
  before := .ofDual mode true
    (fun i r scene => .hook ⟨i.name, i.coverage, .executing event.method, mode,
      .command event (some c), .offered (r.map (shape.shown · scene))⟩)
    (fun i r => (shape.around i).executing c event r)
  stops scene := mode.checkpoint scene.cancelled
  call := .execute shape.method c mode
  native := (shape.native c).perform mode
  after := .ofDual mode true
    (fun i a scene => .hook ⟨i.name, i.coverage, .executed event.method, mode,
      .command event (some c), .given (shape.shown a scene)⟩)
    (fun i a => (shape.around i).executed c event a)

end Shape

namespace Statement

theorem checkpoint_apply (mode : Mode) (s : Session σ) :
    (Attempt.checkpoint mode).observe s = (mode.checkpoint s.scene.cancelled, s) := rfl

section Running

variable {shape : Shape σ α} {mode : Mode} {info : ExecutionInfo} {c : NativeCommand}

theorem native_performs (shape : Shape σ α) (mode : Mode) (c : NativeCommand)
    (event : CommandEvent) {β : Type} (rest : α → Attempt σ β) :
    (shape.execution mode c event).Performs rest (do
      Attempt.checkpoint mode
      Attempt.call (.execute shape.method c mode) mode (shape.native c) >>= rest) := by
  intro s
  have called : ∀ s : Session σ,
      (Attempt.call (.execute shape.method c mode) mode (shape.native c)).observe s =
        (((shape.native c).perform mode s.scene).1,
          (shape.execution mode c event).performed s
            ((shape.native c).perform mode s.scene).2) := fun _ => rfl
  rw [Attempt.observe_bind_apply, checkpoint_apply]
  dsimp only [Shape.execution]
  rcases mode.checkpoint s.scene.cancelled with failure | _
  · rfl
  · dsimp only
    rw [Attempt.observe_bind_apply, called]
    rcases (shape.native c).perform mode s.scene with ⟨_ | a, scene⟩ <;> rfl

theorem executing_relays (plain : shape.Plain) (l : Logger σ) (event : CommandEvent)
    (s : Session σ) :
    ∃ ms, Relays (shape.execution mode c event).before l.commandInterceptors .noResult s
      ms ((l.executing mode shape.around shape.payload c event).observe s).1
      ((l.executing mode shape.around shape.payload c event).observe s).2 := by
  refine Attempt.relays_traced (Attempt.foldHooks_relays ?_ (fun _ _ _ => rfl) _ _) s
  intro i r s
  have shows : r.mapM shape.payload s = (r.map (shape.shown · s.scene), s) := by
    cases r with
    | noResult => rfl
    | hasResult a => exact congrArg (fun x => (Interception.hasResult x.1, x.2)) (plain a s)
  rw [Engine.bind_apply, shows]
  rfl

theorem executed_relays (plain : shape.Plain) (l : Logger σ) (event : CommandEvent) (a : α)
    (s : Session σ) :
    ∃ ms, Relays (shape.execution mode c event).after l.commandInterceptors a s
      ms ((l.executed mode shape.around shape.payload c event a).observe s).1
      ((l.executed mode shape.around shape.payload c event a).observe s).2 := by
  refine Attempt.relays_traced (Attempt.foldHooks_relays ?_ (fun _ _ _ => rfl) _ _) s
  intro i a s
  rw [Engine.bind_apply, plain a s]
  rfl

/-- The executing and executed hooks govern how a command is executed. -/
theorem run_governed (plain : shape.Plain) (mode : Mode) (raised : Option (Logger σ))
    (info : ExecutionInfo) (c : NativeCommand) (s : Session σ) :
    ∃ commandId ms o,
      s.Governed (shape.execution mode c (info.eventAs commandId)) (Logger.hearers raised) ms o
        ((run shape mode raised info c).observe s).2 ∧
      ((run shape mode raised info c).observe s).1 = o.bind fun result => result := by
  obtain ⟨id, t, identifies, unnoticed⟩ := info.event_apply s
  refine ⟨id, ?_⟩
  unfold run
  cases raised with
  | none =>
    have performs := native_performs shape mode c (info.eventAs id) pure
    simp only [bind_pure] at performs
    exact Attempt.governed_unheard (fun result => result) performs s
  | some l =>
    rw [Attempt.observe_bind_apply, checkpoint_apply]
    cases goes : mode.checkpoint s.scene.cancelled with
    | error failure => exact ⟨[], .error failure, governed_of_halted rfl goes, rfl⟩
    | ok _ =>
      have concludes : ∀ a s, ∃ ms o, Relays (shape.execution mode c (info.eventAs id)).after
          l.commandInterceptors a s ms o
            ((l.executed mode shape.around shape.payload c (info.eventAs id) a).observe s).2 ∧
          ((l.executed mode shape.around shape.payload c (info.eventAs id) a).observe s).1 = o := by
        intro a s
        obtain ⟨ms, relays⟩ := executed_relays plain l (info.eventAs id) a s
        exact ⟨ms, _, relays, rfl⟩
      dsimp only
      rw [Attempt.observe_lift_bind, identifies]
      refine Exists.imp (fun ms => Exists.imp fun o => And.imp_left (.after unnoticed)) ?_
      exact Attempt.governed _ (executing_relays plain l (info.eventAs id)) (fun _ => rfl)
        (native_performs shape mode c (info.eventAs id) _) concludes t

end Running

variable [Driver σ]

theorem create_performs (info : ExecutionInfo) (id : CommandId)
    (rest : NativeCommand → Attempt σ α) :
    (Guarded.creation (info.eventAs id)).Performs rest (create info >>= rest) := by
  intro s
  have asks : (create info : Attempt σ NativeCommand).observe s =
      (Outcome.ofResult (Driver.createCommand info.connection s.scene).1,
        (Guarded.creation (info.eventAs id)).performed s
          (Driver.createCommand info.connection s.scene).2) := rfl
  rw [Attempt.observe_bind_apply, asks]
  dsimp only [Guarded.creation, ExecutionInfo.eventAs]
  rcases Driver.createCommand info.connection s.scene with ⟨_ | c, scene⟩ <;> rfl

theorem commandCreating_relays (l : Logger σ) (event : CommandEvent) (s : Session σ) :
    ∃ ms, Relays (Guarded.creation event).before l.commandInterceptors .noResult s ms
      ((l.commandCreating event).observe s).1 ((l.commandCreating event).observe s).2 :=
  Attempt.relays_traced (Attempt.foldHooks_relays (fun _ _ _ => rfl) (fun _ _ _ => rfl) _ _) s

theorem obtain_governed (info : ExecutionInfo) (raised : Option (Logger σ)) (s : Session σ) :
    ∃ id ms o, s.Governed (.creation (info.eventAs id)) (Logger.hearers raised) ms o
        ((obtain info raised).observe s).2 ∧
      ((obtain info raised).observe s).1 = o.map NativeCommand.hooked := by
  cases raised with
  | none =>
    obtain ⟨id, t, _⟩ := info.event_apply s
    refine ⟨id, Attempt.governed_unheard (fun o => .ok (NativeCommand.hooked o)) ?_ s⟩
    exact create_performs info id _
  | some l =>
    obtain ⟨id, t, identifies, unnoticed⟩ := info.event_apply s
    have concludes : ∀ c s, ∃ ms o, Relays (Guarded.creation (info.eventAs id)).after
        l.commandInterceptors c s ms o
          ((Attempt.lift (l.commandCreated (info.eventAs id) c)).observe s).2 ∧
        ((Attempt.lift (l.commandCreated (info.eventAs id) c)).observe s).1 =
          .ok (NativeCommand.hooked o) := by
      intro c s
      obtain ⟨ms, o, relays, hands⟩ := l.commandCreated_relays (info.eventAs id) c s
      exact ⟨ms, o, relays, congrArg Except.ok hands⟩
    refine ⟨id, ?_⟩
    unfold obtain
    dsimp only
    rw [Attempt.observe_lift_bind, identifies]
    refine Exists.imp (fun ms => Exists.imp fun o => And.imp_left (.after unnoticed)) ?_
    exact Attempt.governed _ (commandCreating_relays l (info.eventAs id)) (fun _ => rfl)
      (create_performs info id _) concludes t

end Statement

namespace Transaction

variable [Driver σ] {mode : Mode}

theorem begun_performs (mode : Mode) (event : TransactionEvent)
    (rest : NativeTransaction → Attempt σ α) :
    (Guarded.beginning mode event).Performs rest
      (Attempt.call (.begin event.connection mode event.isolation) mode
        (Driver.begin event.connection event.isolation) >>= rest) := by
  intro s
  have called : (Attempt.call (.begin event.connection mode event.isolation) mode
      (Driver.begin event.connection event.isolation)).observe s =
        (((Driver.begin event.connection event.isolation).perform mode s.scene).1,
          (Guarded.beginning mode event).performed s
            ((Driver.begin event.connection event.isolation).perform mode s.scene).2) := rfl
  rw [Attempt.observe_bind_apply, called]
  dsimp only [Guarded.beginning]
  rcases (Driver.begin event.connection event.isolation).perform mode s.scene with ⟨_ | t, scene⟩
  all_goals rfl

theorem transactionStarting_relays (mode : Mode) (l : Logger σ) (event : TransactionEvent)
    (s : Session σ) :
    ∃ ms, Relays (Guarded.beginning mode event).before l.transactionInterceptors .noResult s ms
      ((l.transactionStarting mode event).observe s).1
      ((l.transactionStarting mode event).observe s).2 :=
  Attempt.relays_traced (Attempt.foldHooks_relays (fun _ _ _ => rfl) (fun _ _ _ => rfl) _ _) s

theorem transactionStarted_relays (mode : Mode) (l : Logger σ) (event : TransactionEvent)
    (t : NativeTransaction) (s : Session σ) :
    ∃ ms, Relays (Guarded.beginning mode event).after l.transactionInterceptors t s ms
      ((l.transactionStarted mode event t).observe s).1
      ((l.transactionStarted mode event t).observe s).2 :=
  Attempt.relays_traced (Attempt.foldHooks_relays (fun _ _ _ => rfl) (fun _ _ _ => rfl) _ _) s

theorem beginNative_governed (mode : Mode) (c : ConnectionId) (isolation : IsolationLevel)
    (id : TransactionId) (s : Session σ) :
    ∃ ms o, s.Governed (.beginning mode ⟨c, id, isolation, mode.isAsync⟩)
        (Logger.transactionHearers
          ((s.connections c).logger.filter (·.raisesTransaction s.traceLimit))) ms o
        ((beginNative mode c isolation id).observe s).2 ∧
      ((beginNative mode c isolation id).observe s).1 = o.bind fun result => result := by
  have raises : (Attempt.lift (Engine.raising Logger.raisesTransaction
      (s.connections c).logger)).observe s =
        (.ok ((s.connections c).logger.filter (·.raisesTransaction s.traceLimit)), s) := rfl
  unfold beginNative
  rw [Attempt.observe_get_bind, Attempt.observe_bind_ok raises]
  cases (s.connections c).logger.filter (·.raisesTransaction s.traceLimit) with
  | none =>
    have performs := begun_performs (σ := σ) mode ⟨c, id, isolation, mode.isAsync⟩ pure
    simp only [bind_pure] at performs
    exact Attempt.governed_unheard (fun result => result) performs s
  | some l =>
    let event : TransactionEvent := ⟨c, id, isolation, mode.isAsync⟩
    have concludes : ∀ t s, ∃ ms o, Relays (Guarded.beginning mode event).after
        l.transactionInterceptors t s ms o ((l.transactionStarted mode event t).observe s).2 ∧
        ((l.transactionStarted mode event t).observe s).1 = o := by
      intro t s
      obtain ⟨ms, relays⟩ := transactionStarted_relays mode l event t s
      exact ⟨ms, _, relays, rfl⟩
    exact Attempt.governed _ (transactionStarting_relays mode l event) (fun _ => rfl)
      (begun_performs mode event _) concludes s

end Transaction

end SqlExecution
