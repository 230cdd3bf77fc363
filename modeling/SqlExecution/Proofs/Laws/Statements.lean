import SqlExecution.Proofs.Course
import SqlExecution.Proofs.Laws.Cursors
import SqlExecution.Proofs.Laws.Hooks

/-! Executing a statement obeys a law under which hooks may be called and commands looked after. The
call that executes the command, and taking and giving back opens, are up to the law. -/

namespace SqlExecution

variable {σ α : Type}

open Session

namespace NativeCall

/-- Calls that look after a command, whether or not its connection is open. -/
def isUpkeep : NativeCall → Bool
  | createCommand _ => true
  | clearParameters _ => true
  | dispose _ _ => true
  | _ => false

end NativeCall

namespace Session

variable [Driver σ]

/-- A law under which commands may be discarded. -/
structure Discards (R : Session σ → Session σ → Prop) : Prop where
  clears (c : NativeCommand) : Allows R (.clearParameters c)
  disposes (c : NativeCommand) (mode : Mode) : Allows R (.dispose c mode)

/-- A law under which commands may be made ready, with the events around that. -/
structure Prepares (R : Session σ → Session σ → Prop) : Prop extends Discards R where
  creates (id : ConnectionId) : Allows R (.createCommand id)
  creating : Hears R .commandCreating
  created : Hears R .commandCreated
  failed : Hears R .commandFailed

/-- A law under which hooks may be called and commands looked after. -/
structure Tolerates (R : Session σ → Session σ → Prop) : Prop where
  hears (hook : Hook) : Hears R hook
  upkeep {call : NativeCall} (kind : call.isUpkeep = true) : Allows R call

/-- A law under which besides transactions may be made known. -/
structure Lenient (R : Session σ → Session σ → Prop) : Prop extends Tolerates R where
  wraps (w : Wrapping) : Notes R (.wrapped w)
  ambient (s : Session σ) (id : ConnectionId) (a : Option Ambient) :
    R s (s.setConnection id { s.connections id with ambient := a })

theorem Tolerates.discards {R : Session σ → Session σ → Prop} (tolerates : Tolerates R) :
    Discards R := ⟨fun _ => tolerates.upkeep rfl, fun _ _ => tolerates.upkeep rfl⟩

theorem Tolerates.prepares {R : Session σ → Session σ → Prop} (tolerates : Tolerates R) :
    Prepares R where
  toDiscards := tolerates.discards
  creates _ := tolerates.upkeep rfl
  creating := tolerates.hears _
  created := tolerates.hears _
  failed := tolerates.hears _

end Session

/-- The result of a shape is shown without anything happening. -/
def Shape.Quiet (shape : Shape σ α) : Prop := ∀ a s, (shape.payload a s).2 = s

/-- A shape whose native operation is the call that is noted, and whose hooks are those of the
interceptors. -/
structure Shape.Faithful [Driver σ] (shape : Shape σ α) : Prop where
  quiet : shape.Quiet
  effect (c : NativeCommand) (mode : Mode) (s : Scene σ) :
    ((shape.native c).perform mode s).2 = (NativeCall.execute shape.method c mode).effect s
  around {P : (Scene σ → Scene σ) → Prop} {i : CommandInterceptor σ} (hooks : i.EachHook P) :
    (shape.around i).EachHook P

namespace Shape

variable [Driver σ]

@[simp] theorem method_reader : (reader : Shape σ Cursor).method = .reader := rfl

theorem nonQuery_faithful : (nonQuery : Shape σ Int64).Faithful :=
  ⟨fun _ _ => rfl, fun _ _ _ => rfl, fun hooks => hooks.nonQuery⟩

theorem scalar_faithful : (scalar : Shape σ (Option Value)).Faithful :=
  ⟨fun _ _ => rfl, fun _ _ _ => rfl, fun hooks => hooks.scalar⟩

theorem reader_faithful : (reader : Shape σ Cursor).Faithful :=
  ⟨fun _ _ => rfl, fun _ _ _ => rfl, fun hooks => hooks.reader⟩

end Shape

variable {R : Session σ → Session σ → Prop} [ReportingLaw R]

namespace NativeCommand

variable [Driver σ]

theorem obeys_discard_of {mode : Mode} {c : NativeCommand} (clears : Allows R (.clearParameters c))
    (disposes : Allows R (.dispose c.clear mode)) : Engine.Obeys R (c.discard mode) :=
  (Engine.obeys_record clears.notes).bind fun _ => Engine.obeys_call disposes fun _ => rfl

theorem obeys_discard (discards : Discards R) (mode : Mode) (c : NativeCommand) :
    Engine.Obeys R (c.discard mode) :=
  obeys_discard_of (discards.clears c) (discards.disposes c.clear mode)

theorem obeys_cleanUp_of {mode : Mode} {id : ConnectionId} {c : NativeCommand}
    (discarded : Engine.Obeys R (c.discard mode))
    (gives : Engine.Obeys R (id.releaseOutcome mode)) : Engine.Obeys R (c.cleanUp mode id) :=
  discarded.bind fun _ => gives.bind fun _ => .pure _

theorem obeys_cleanUp (discards : Discards R) {mode : Mode} {id : ConnectionId}
    (gives : Engine.Obeys R (id.releaseOutcome mode)) (c : NativeCommand) :
    Engine.Obeys R (c.cleanUp mode id) := obeys_cleanUp_of (obeys_discard discards mode c) gives

end NativeCommand

namespace Statement

variable {shape : Shape σ α} {mode : Mode} {r : Request σ} {info : ExecutionInfo}
  {logger : Option (Logger σ)}

theorem obeys_enter (s : Statement) (method : Method) (mode : Mode) (r : Request σ) :
    Attempt.Obeys R (s.enter method mode r) :=
  (Attempt.obeys_ofOutcome _).bind fun _ => (Attempt.obeys_checkpoint mode).bind fun _ =>
    (Attempt.obeys_lift Engine.obeys_newTicket).bind fun _ =>
      (Attempt.obeys_lift (Engine.obeys_raising _ _)).bind fun _ => .pure _

variable [Driver σ]

theorem obeys_openFor {id : ConnectionId} (takes : Attempt.Obeys R (id.acquire mode)) :
    Attempt.Obeys R (openFor mode id) := (Attempt.obeys_checkpoint mode).bind fun _ => takes

theorem obeys_create (creates : Allows R (.createCommand info.connection)) :
    Attempt.Obeys R (create info : Attempt σ _) := Attempt.obeys_callPlain creates fun _ => rfl

theorem obeys_obtain (creates : Allows R (.createCommand info.connection))
    (creating : Hears R .commandCreating) (created : Hears R .commandCreated)
    (hooks : ∀ l ∈ logger, l.EachHook (Lets R)) :
    Attempt.Obeys R (obtain info logger) := by
  cases logger with
  | none => exact (obeys_create creates).bind fun _ => .pure _
  | some l =>
    have rest : ∀ event c, Attempt.Obeys R (Attempt.lift (l.commandCreated event c)) :=
      fun event c => Attempt.obeys_lift (Logger.obeys_commandCreated created (hooks l rfl) event c)
    unfold obtain
    refine (Attempt.obeys_lift info.obeys_event).bind fun event => ?_
    refine (Logger.obeys_commandCreating creating (hooks l rfl) event).bind fun offered => ?_
    cases offered with
    | hasResult c => exact rest event c
    | noResult => exact (obeys_create creates).bind (rest event)

theorem obeys_yielded (creates : Allows R (.createCommand info.connection))
    (creating : Hears R .commandCreating) (created : Hears R .commandCreated)
    (hooks : ∀ l ∈ r.logger, l.EachHook (Lets R)) :
    Attempt.Obeys R (yielded r info) :=
  Attempt.obeys_get.bind fun _ => obeys_obtain creates creating created fun l raised =>
    hooks l (Option.mem_filter_iff.1 raised).1

theorem obeys_equipped (yields : Attempt.Obeys R (yielded r info)) (s : Statement) :
    Attempt.Obeys R (s.equipped r info) :=
  yields.bind fun _ => Attempt.obeys_get.bind fun _ => (Attempt.obeys_ofOutcome _).bind fun _ =>
    .pure _

theorem obeys_opening (yields : ∀ info, Attempt.Obeys R (yielded r info))
    (takes : Attempt.Obeys R (r.connection.acquire mode)) (s : Statement) (method : Method) :
    Attempt.Obeys R (s.opening method mode r) :=
  (s.obeys_enter method mode r).bind fun _ => (obeys_equipped (yields _) s).bind fun _ =>
    (obeys_openFor takes).bind fun _ => .pure _

section Faithful

variable (faithful : shape.Faithful) {c : NativeCommand}
include faithful

theorem obeys_native (works : Allows R (.execute shape.method c mode)) : Attempt.Obeys R
    (Attempt.call (.execute shape.method c mode) mode (shape.native c)) :=
  Attempt.obeys_call works (faithful.effect c mode)

theorem obeys_conclude {reached : Reached σ α} (executed : ∀ method, Hears R (.executed method))
    (hooks : ∀ raised ∈ reached.raised, raised.1.EachHook (Lets R)) :
    Attempt.Obeys R (conclude shape mode c reached) := by
  unfold conclude
  split
  · exact .pure _
  · next l event raised =>
    have around := fun i member => faithful.around ((hooks _ raised).command i member)
    exact Logger.obeys_executed (executed _) faithful.quiet around c _

theorem obeys_run (executing : ∀ method, Hears R (.executing method))
    (executed : ∀ method, Hears R (.executed method)) (hooks : ∀ l ∈ logger, l.EachHook (Lets R))
    (works : Allows R (.execute shape.method c mode)) :
    Attempt.Obeys R (run shape mode logger info c) := by
  unfold run
  refine (Attempt.obeys_checkpoint mode).bind fun _ => ?_
  cases logger with
  | none => exact obeys_native faithful works
  | some l =>
    have around := fun i member => faithful.around ((hooks l rfl).command i member)
    have rest : ∀ event a, Attempt.Obeys R
        (l.executed mode shape.around shape.payload c event a) := fun event a =>
      Logger.obeys_executed (executed _) faithful.quiet around c a
    refine (Attempt.obeys_lift info.obeys_event).bind fun event => ?_
    refine (Logger.obeys_executing (executing _) faithful.quiet around c).bind fun offered => ?_
    cases offered with
    | hasResult a => exact rest event a
    | noResult =>
      have called : ∀ _ : PUnit, Attempt.Obeys R (do
          let a ← Attempt.call (.execute shape.method c mode) mode (shape.native c)
          l.executed mode shape.around shape.payload c event a) := fun _ =>
        (obeys_native faithful works).bind (rest event)
      exact (Attempt.obeys_checkpoint mode).bind called

end Faithful

omit [Driver σ] [ReportingLaw R] in
theorem obeys_reportFailure [Law R] (failed : Hears R .commandFailed)
    (hooks : ∀ l ∈ logger, l.EachHook (Lets R)) (c : NativeCommand) (e : Error) :
    Engine.Obeys R (reportFailure mode logger info c e) := by
  cases logger with
  | none => exact .pure ()
  | some l =>
    exact info.obeys_event.bind fun event =>
      Logger.obeys_commandFailed failed (hooks l rfl) mode c event e

theorem obeys_discharge_of {c : NativeCommand} (discarded : Engine.Obeys R (c.discard mode))
    {opened : Bool}
    (gives : opened = true → Engine.Obeys R (info.connection.releaseOutcome mode)) :
    Engine.Obeys R (discharge mode info c opened) := by
  refine discarded.bind fun disposed => ?_
  have complains : ∀ closed : Outcome Unit, Engine.Obeys R (do
      Engine.warn Trace.commandTarget "Cleanup after a failed command also failed"
        [Trace.connectionField info.connection] disposed
      Engine.warn Trace.commandTarget "Cleanup after a failed command also failed"
        [Trace.connectionField info.connection] closed : Engine σ Unit) := fun closed =>
    (Engine.obeys_warn _ _ _ _).bind fun _ => Engine.obeys_warn _ _ _ _
  cases opened with
  | false => exact Engine.Obeys.bind (.pure _) complains
  | true => exact (gives rfl).bind complains

theorem obeys_discharge (discards : Discards R) {opened : Bool}
    (gives : opened = true → Engine.Obeys R (info.connection.releaseOutcome mode))
    (c : NativeCommand) : Engine.Obeys R (discharge mode info c opened) :=
  obeys_discharge_of (NativeCommand.obeys_discard discards mode c) gives

omit [ReportingLaw R] in
theorem obeys_abandon_of [Law R] (failed : Hears R .commandFailed)
    (hooks : ∀ l ∈ logger, l.EachHook (Lets R)) {c : NativeCommand}
    (discarded : Engine.Obeys R (c.discard mode)) {opened : Bool}
    (gives : opened = true → Engine.Obeys R (info.connection.releaseOutcome mode)) (e : Error) :
    Engine.Obeys R (abandon mode logger info c e opened) := by
  rw [abandon_eq]
  exact (obeys_reportFailure failed hooks c e).bind fun _ => obeys_discharge_of discarded gives

omit [ReportingLaw R] in
theorem obeys_abandon [Law R] (failed : Hears R .commandFailed) (discards : Discards R)
    (hooks : ∀ l ∈ logger, l.EachHook (Lets R)) {opened : Bool}
    (gives : opened = true → Engine.Obeys R (info.connection.releaseOutcome mode))
    (c : NativeCommand) (e : Error) :
    Engine.Obeys R (abandon mode logger info c e opened) :=
  obeys_abandon_of failed hooks (NativeCommand.obeys_discard discards mode c) gives e

variable (prepares : Prepares R)
include prepares

omit [ReportingLaw R] in
theorem Preparation.obeys [Law R] (hooks : ∀ l ∈ r.logger, l.EachHook (Lets R)) {s : Statement}
    {start t : Session σ} {o : Outcome NativeCommand} (h : Preparation s mode r info start o t) :
    R start t := by
  have asked : R start ((yielded r info).observe start).2 :=
    obeys_yielded (prepares.creates _) prepares.creating prepares.created hooks start
  cases h with
  | uncreated stops => rwa [stops] at asked
  | unequipped yields fails =>
    rw [yields] at asked
    have reporting : ∀ l ∈ r.reporting start, l.EachHook (Lets R) :=
      fun l member => hooks l (Option.mem_filter_iff.1 member).1
    exact Law.trans asked (obeys_abandon prepares.failed prepares.toDiscards reporting
      (fun opened => by cases opened) _ _ _)
  | equipped yields equips => rwa [yields] at asked

omit [ReportingLaw R] in
theorem obeys_prepare [Law R] (hooks : ∀ l ∈ r.logger, l.EachHook (Lets R)) (s : Statement) :
    Attempt.Obeys R (s.prepare mode r info) := fun start =>
  (s.prepare_course mode r info start).obeys prepares hooks

end Statement

end SqlExecution
