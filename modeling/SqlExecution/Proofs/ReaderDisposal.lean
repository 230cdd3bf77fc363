import SqlExecution.Proofs.CleanupFailures
import SqlExecution.Proofs.PlainEndings
import SqlExecution.Scripted.Hooks

/-! How a reader lets go of what it holds. Its disposal is announced to whoever hears of it, and then
every step of the release runs, in order and whatever became of those before it. The disposal ends
as the first step that failed; only if none did, it ends as a cancellation that came by then. -/

namespace SqlExecution

variable {σ : Type}

open Session Trace

namespace Outcome

@[simp] theorem ok_andThen (o : Outcome Unit) : andThen (.ok ()) o = o := rfl

@[simp] theorem andThen_ok (o : Outcome Unit) : o.andThen (.ok ()) = o := by cases o <;> rfl

theorem andThen_assoc (first second third : Outcome Unit) :
    (first.andThen second).andThen third = first.andThen (second.andThen third) := by
  cases first <;> rfl

/-- The first failure of steps that all run. -/
def firstFailure (os : List (Outcome Unit)) : Outcome Unit := os.foldr andThen (.ok ())

theorem firstFailure_append (os os' : List (Outcome Unit)) :
    firstFailure (os ++ os') = (firstFailure os).andThen (firstFailure os') := by
  induction os with
  | nil => rfl
  | cons o rest ih =>
    have here : firstFailure (o :: rest) = o.andThen (firstFailure rest) := rfl
    rw [here, andThen_assoc, ← ih]
    rfl

end Outcome

section Steps

variable [Driver σ]

namespace NativeCall

/-- How a cleanup step ends in this scene. -/
def cleanupOutcome (x : Scene σ) : NativeCall → Outcome Unit
  | closeConnection id mode => ((Driver.closeConnection id).perform mode x).1
  | rollback t mode => ((Driver.rollback t).perform mode x).1
  | dispose c mode => ((Driver.dispose c).perform mode x).1
  | closeCursor c mode => ((Driver.closeCursor c).perform mode x).1
  | _ => .ok ()

/-- What is noted of the calls. -/
def moments : List NativeCall → Scene σ → List (Moment σ)
  | [], _ => []
  | call :: rest, x => ⟨x, .native call⟩ :: moments rest (call.effect x)

/-- The scene that they leave. -/
def effects (calls : List NativeCall) (x : Scene σ) : Scene σ :=
  calls.foldl (fun x call => call.effect x) x

theorem moments_append (calls more : List NativeCall) (x : Scene σ) :
    moments (calls ++ more) x = moments calls x ++ moments more (effects calls x) := by
  induction calls generalizing x with
  | nil => rfl
  | cons call rest ih => simp [moments, effects, ih]

theorem effects_append (calls more : List NativeCall) (x : Scene σ) :
    effects (calls ++ more) x = effects more (effects calls x) := by simp [effects]

end NativeCall

def Moment.cleanupOutcome (m : Moment σ) : Outcome Unit :=
  match m.entry with
  | .native call => call.cleanupOutcome m.scene
  | _ => .ok ()

namespace Session

/-- From one moment to the other these steps run and nothing else reaches the driver or a hook. All
of them run, and the first failure among them is the outcome. -/
structure RunsAll (calls : List NativeCall) (s : Session σ) (o : Outcome Unit) (t : Session σ) :
    Prop where
  shows : s.Shows .reached (NativeCall.moments calls s.scene) t
  scene : t.scene = NativeCall.effects calls s.scene
  outcome : o = .firstFailure ((NativeCall.moments calls s.scene).map Moment.cleanupOutcome)

variable {s t u : Session σ} {calls more : List NativeCall} {o o' : Outcome Unit}

theorem runsAll_of_unnoticed (unnoticed : Unnoticed s t) : s.RunsAll [] (.ok ()) t :=
  ⟨unnoticed.hidden _, unnoticed.scene, rfl⟩

theorem RunsAll.trans (first : s.RunsAll calls o t) (second : t.RunsAll more o' u) :
    s.RunsAll (calls ++ more) (o.andThen o') u := by
  obtain ⟨shows, scene, rfl⟩ := first
  obtain ⟨shows', scene', rfl⟩ := second
  rw [scene] at shows' scene' ⊢
  refine ⟨?_, ?_, ?_⟩
  · rw [NativeCall.moments_append]
    exact shows.trans shows'
  · rw [scene', NativeCall.effects_append]
  · rw [NativeCall.moments_append, List.map_append, Outcome.firstFailure_append]

theorem RunsAll.after (unnoticed : Unnoticed s t) (h : t.RunsAll calls o u) :
    s.RunsAll calls o u := (runsAll_of_unnoticed unnoticed).trans h

theorem RunsAll.before (h : s.RunsAll calls o t) (unnoticed : Unnoticed t u) :
    s.RunsAll calls o u := by
  have run := h.trans (runsAll_of_unnoticed unnoticed)
  rwa [List.append_nil, Outcome.andThen_ok] at run

theorem runsAll_call {note : NativeCall} {a : Act σ (Outcome Unit)}
    (ends : ∀ x, a x = (note.cleanupOutcome x, note.effect x)) (s : Session σ) :
    s.RunsAll [note] (Engine.call note a s).1 (Engine.call note a s).2 := by
  have called : Engine.call note a s =
      ((a s.scene).1, { s.noted (.native note) with scene := (a s.scene).2 }) := rfl
  rw [called, ends]
  exact ⟨(shows_noted rfl s).before (.of_journal_eq rfl), rfl, (Outcome.andThen_ok _).symm⟩

end Session

theorem NativeCommand.discard_runsAll (mode : Mode) (c : NativeCommand) (s : Session σ) :
    s.RunsAll [.clearParameters c, .dispose c.clear mode] (c.discard mode s).1
      (c.discard mode s).2 := by
  have cleared : s.RunsAll [.clearParameters c] (.ok ()) (s.noted (.native (.clearParameters c))) :=
    ⟨shows_noted rfl s, rfl, rfl⟩
  exact cleared.trans (runsAll_call (fun _ => rfl) _)

theorem ConnectionId.releaseOutcome_runsAll (mode : Mode) (id : ConnectionId) (s : Session σ) :
    s.RunsAll (id.closeCalls mode s) (id.releaseOutcome mode s).1 (id.releaseOutcome mode s).2 := by
  have counted : Unnoticed s (s.setConnection id (s.connections id).released.1) :=
    ⟨fun _ => .of_journal_eq rfl, rfl⟩
  have outcome : id.releaseOutcome mode s =
      (((id.release mode).observe s).1.map fun _ => (), ((id.release mode).observe s).2) := rfl
  rw [outcome, closeCalls]
  cases closes : (s.connections id).released.2 with
  | false =>
    rw [release_of_kept closes]
    exact runsAll_of_unnoticed counted
  | true =>
    have traced : Engine.Obeys Unnoticed (Engine.trace (σ := σ) .debug connectionTarget
        "Closing connection" [connectionField id, ("is_async", .bool mode.isAsync)]) :=
      Engine.obeys_trace _ _ _ _
    have begun := Law.trans counted (traced _)
    rw [release_of_closing closes, if_pos rfl]
    generalize (Engine.trace .debug connectionTarget "Closing connection" _ _).2 = u at begun ⊢
    have closed : u.RunsAll [.closeConnection id mode]
        ((Attempt.call (.closeConnection id mode) mode (Driver.closeConnection id)).observe u).1
        ((Attempt.call (.closeConnection id mode) mode (Driver.closeConnection id)).observe u).2 :=
      runsAll_call (fun _ => rfl) u
    rw [callNative, Attempt.observe_bind_apply]
    rcases ends : (Attempt.call (.closeConnection id mode) mode
      (Driver.closeConnection id : Dual σ Unit)).observe u with ⟨failure | _, v⟩
    all_goals
      rw [ends] at closed
      exact closed.after begun

theorem NativeCommand.cleanUp_runsAll (mode : Mode) (id : ConnectionId) (c : NativeCommand)
    (s : Session σ) :
    s.RunsAll ([.clearParameters c, .dispose c.clear mode] ++ id.closeCalls mode s)
      (c.cleanUp mode id s).1 (c.cleanUp mode id s).2 := by
  have discarded := c.discard_runsAll mode s
  have same : id.closeCalls mode (c.discard mode s).2 = id.closeCalls mode s :=
    id.closeCalls_of_connections mode (c.discard_issues mode s).connections
  have released := id.releaseOutcome_runsAll mode (c.discard mode s).2
  rw [same] at released
  exact discarded.trans released

end Steps

namespace Logger

/-- What an interceptor is told of a disposal. -/
def disposal (mode : Mode) (c : NativeCommand) (event : CommandEvent) (d : Disposal)
    (i : CommandInterceptor σ) : Delivery :=
  ⟨i.name, i.coverage, .readerDisposing, mode, .command event (some c), .given (.disposal d)⟩

theorem readerDisposing_shows (l : Logger σ) (mode : Mode) (c : NativeCommand)
    (event : CommandEvent) (d : Disposal) (s : Session σ) :
    s.Shows .reached (watching (disposal mode c event d) (·.disposing mode c event d)
        l.commandInterceptors s.scene) (l.readerDisposing mode c event d s).2 ∧
      (l.readerDisposing mode c event d s).2.scene =
        watched (·.disposing mode c event d) l.commandInterceptors s.scene := by
  have traced : Unnoticed s (Engine.trace .debug readerTarget
      ("Closing data reader after " ++ Value.intText d.readCount ++ " rows " ++ elapsed)
      (commandFields event ++ [("read_count", .int d.readCount),
        ("records_affected", .int d.recordsAffected.toInt)]) s).2 :=
    Engine.obeys_trace _ _ _ _ s
  unfold readerDisposing
  rw [Engine.bind_apply, ← traced.scene]
  obtain ⟨shows, scene⟩ := Engine.forM_watching (disposal mode c event d)
    (·.disposing mode c event d) l.commandInterceptors _
  exact ⟨(traced.hidden _).trans shows, scene⟩

end Logger

variable [Driver σ]

namespace ReaderBinding

/-- Who hears that the reader is disposed. -/
def disposalHearers (b : ReaderBinding σ) (s : Session σ) : List (CommandInterceptor σ) :=
  Logger.hearers (b.logger.filter (·.raisesExecute s.traceLimit))

def event (b : ReaderBinding σ) (s : Session σ) : CommandEvent :=
  b.info.eventAs (s.idFor b.info.ticket)

/-- What is noted of the disposing hooks. -/
def announcement (mode : Mode) (b : ReaderBinding σ) (d : Disposal) (s : Session σ) :
    List (Moment σ) :=
  watching (Logger.disposal mode b.command (b.event s) d)
    (·.disposing mode b.command (b.event s) d) (b.disposalHearers s) s.scene

/-- The scene that the disposing hooks leave. -/
def announcedScene (mode : Mode) (b : ReaderBinding σ) (d : Disposal) (s : Session σ) : Scene σ :=
  watched (·.disposing mode b.command (b.event s) d) (b.disposalHearers s) s.scene

/-- The steps that release what the reader holds, in order. Results in memory have no cursor of the
driver's, and the native connection is closed only with its last open. -/
def releaseCalls (mode : Mode) (b : ReaderBinding σ) (s : Session σ) : List NativeCall :=
  b.cursor.native?.toList.map (.closeCursor · mode) ++
    ([.clearParameters b.command, .dispose b.command.clear mode] ++
      b.info.connection.closeCalls mode s)

/-- The release steps with the scenes that they find. -/
def release (mode : Mode) (b : ReaderBinding σ) (d : Disposal) (s : Session σ) :
    List (Moment σ) :=
  NativeCall.moments (b.releaseCalls mode s) (b.announcedScene mode d s)

/-- From one session to the other the disposal is announced and then all that the reader holds is
released. The outcome is the first failure in that, or else a cancellation. -/
structure Dismantled (mode : Mode) (b : ReaderBinding σ) (d : Disposal) (s : Session σ)
    (o : Outcome Unit) (t : Session σ) : Prop where
  shows : s.Shows .reached (b.announcement mode d s ++ b.release mode d s) t
  scene : t.scene = NativeCall.effects (b.releaseCalls mode s) (b.announcedScene mode d s)
  connections : t.connections = s.given b.info.connection
  outcome : o = (Outcome.firstFailure ((b.release mode d s).map Moment.cleanupOutcome)).andThen
    (mode.checkpoint t.scene.cancelled)

variable {mode : Mode} {b : ReaderBinding σ} {d : Disposal} {s t : Session σ} {o : Outcome Unit}

theorem Dismantled.warned (h : b.Dismantled mode d s o t) (target message : String)
    (fields : List (String × TraceValue)) (failed : Outcome Unit) :
    b.Dismantled mode d s o (Engine.warn target message fields failed t).2 := by
  have unnoticed : Unnoticed t (Engine.warn target message fields failed t).2 :=
    Engine.obeys_warn _ _ _ _ _
  have issues : t.Issues [] (Engine.warn target message fields failed t).2 :=
    Within.silent (Engine.obeys_warn _ _ _ _ _)
  refine ⟨h.shows.before (unnoticed.hidden _), ?_, ?_, ?_⟩
  · rw [unnoticed.scene, h.scene]
  · rw [issues.connections, h.connections]
  · rw [unnoticed.scene]
    exact h.outcome

end ReaderBinding

omit [Driver σ] in
theorem Holding.Released.connections {mode : Mode} {h : Holding} {s t : Session σ}
    (released : h.Released mode s t) : t.connections = s.given h.connection := by
  obtain ⟨u, closed, v, disposed, back⟩ := released
  have same : v.connections = s.connections := disposed.connections.trans closed.connections
  rw [back.connections, if_pos rfl]
  simp [given, setConnection, same]

namespace DataReader

theorem closeCursor_runsAll (mode : Mode) (cursor : DataCursor) (s : Session σ) :
    s.RunsAll (cursor.native?.toList.map (.closeCursor · mode)) (closeCursor mode cursor s).1
      (closeCursor mode cursor s).2 := by
  cases cursor with
  | native c => exact runsAll_call (fun _ => rfl) s
  | buffered b => exact runsAll_of_unnoticed (Law.refl s)

/-- What a reader tells when it is disposed. -/
def disposalAt (r : DataReader σ) (s : Session σ) : Disposal :=
  ⟨(r.recordsAffected s).1, r.readCount⟩

theorem announce_shows (mode : Mode) (r : DataReader σ) (b : ReaderBinding σ) (s : Session σ) :
    s.Shows .reached (b.announcement mode (r.disposalAt s) s) (r.announce mode b s).2 ∧
      (r.announce mode b s).2.scene = b.announcedScene mode (r.disposalAt s) s := by
  unfold announce ReaderBinding.announcement ReaderBinding.announcedScene
    ReaderBinding.disposalHearers
  have raised : Engine.raising Logger.raisesExecute b.logger s =
      (b.logger.filter (·.raisesExecute s.traceLimit), s) := rfl
  rw [Engine.bind_apply, raised]
  dsimp only
  cases b.logger.filter (·.raisesExecute s.traceLimit) with
  | none => exact ⟨.of_journal_eq rfl, rfl⟩
  | some l =>
    dsimp only
    have asked : r.recordsAffected (s.identified b.info.ticket) =
        ((r.recordsAffected s).1, s.identified b.info.ticket) := by
      rw [identified_eq]
      unfold recordsAffected
      rcases r.cursor? with _ | c | copy <;> rfl
    rw [Engine.bind_apply, ExecutionInfo.event_eq, Engine.bind_apply, asked]
    have identified : Unnoticed s (s.identified b.info.ticket) := by
      rw [identified_eq]
      exact ⟨fun _ => .of_journal_eq rfl, rfl⟩
    obtain ⟨shows, scene⟩ := l.readerDisposing_shows mode b.command (b.event s) (r.disposalAt s)
      (s.identified b.info.ticket)
    rw [identified.scene] at shows scene
    exact ⟨.after (identified.hidden _) shows, scene⟩

theorem releaseBinding_runsAll (mode : Mode) (b : ReaderBinding σ) (s : Session σ) :
    ∃ failed, s.RunsAll (b.releaseCalls mode s) failed (releaseBinding mode b s).2 ∧
      (releaseBinding mode b s).1 =
        failed.andThen (mode.checkpoint (releaseBinding mode b s).2.scene.cancelled) := by
  have closed := closeCursor_runsAll mode b.cursor s
  have same : b.info.connection.closeCalls mode (closeCursor mode b.cursor s).2 =
      b.info.connection.closeCalls mode s :=
    b.info.connection.closeCalls_of_connections mode (closeCursor_issues mode b.cursor s).connections
  have cleaned := b.command.cleanUp_runsAll mode b.info.connection (closeCursor mode b.cursor s).2
  rw [same] at cleaned
  have run := closed.trans cleaned
  unfold releaseBinding
  rw [Engine.bind_apply, Engine.bind_apply]
  rcases closes : closeCursor mode b.cursor s with ⟨failure | _, t⟩
  all_goals rw [closes] at run
  · exact ⟨_, run.before (Engine.obeys_warn _ _ _ _ _), rfl⟩
  · rcases cleans : b.command.cleanUp mode b.info.connection t with ⟨failure | _, u⟩
    all_goals
      rw [cleans] at run
      exact ⟨_, run, rfl⟩

theorem dispose_dismantles (mode : Mode) {r : DataReader σ} {b : ReaderBinding σ}
    (phase : r.phase = .bound b) (s : Session σ) :
    b.Dismantled mode (r.disposalAt s) s (r.dispose mode s).1.1 (r.dispose mode s).2 := by
  obtain ⟨told, scene⟩ := r.announce_shows mode b s
  have unmoved : (r.announce mode b s).2.connections = s.connections :=
    ((r.only_announce mode b s).silent).connections
  obtain ⟨failed, run, outcome⟩ := releaseBinding_runsAll mode b (r.announce mode b s).2
  have same : b.releaseCalls mode (r.announce mode b s).2 = b.releaseCalls mode s := by
    rw [ReaderBinding.releaseCalls, b.info.connection.closeCalls_of_connections mode unmoved]
    rfl
  rw [same] at run
  have holds : r.holding? = some b.holding := by
    simp [holding?, phase, ReaderPhase.binding?]
  have given := (r.dispose_of_holding mode holds s).1.connections
  have disposed : r.dispose mode s =
      (((releaseBinding mode b (r.announce mode b s).2).1, r.retired),
        (releaseBinding mode b (r.announce mode b s).2).2) := by
    unfold dispose
    rw [phase]
    rfl
  rw [disposed] at given ⊢
  have shows := run.shows
  have outcomes := run.outcome
  rw [scene] at shows outcomes
  exact ⟨told.trans shows, by rw [run.scene, scene], given, by rw [outcome, outcomes]; rfl⟩

theorem drop_eq (r : DataReader σ) (s : Session σ) :
    r.drop s = Engine.warn readerTarget "Failed to dispose data reader on drop" []
      (r.dispose .blocking s).1.1 (r.dispose .blocking s).2 := by
  have plain : (r.dispose .blocking s).1.1.Plain := r.yields_dispose s
  unfold drop
  rw [Engine.bind_apply]
  cases ends : (r.dispose .blocking s).1.1 with
  | ok _ => rfl
  | error failure =>
    rw [ends] at plain
    -- A blocking disposal fails with an error only, which is what is warned of.
    obtain ⟨e | _, same⟩ := plain
    · cases same
      rfl
    · cases same

/-- However it comes to be disposed, an open reader announces it and releases all that it holds,
whatever fails on the way. What is not returned of a failure is warned of. -/
theorem dismantles (r : DataReader σ) {b : ReaderBinding σ} (phase : r.phase = .bound b)
    (s : Session σ) :
    (∀ mode, b.Dismantled mode (r.disposalAt s) s (r.dispose mode s).1.1 (r.dispose mode s).2 ∧
      (r.dispose mode s).1.2 = { r with phase := .disposed }) ∧
    (b.Dismantled .blocking (r.disposalAt s) s (r.dispose .blocking s).1.1 (r.drop s).2 ∧
      r.drop s = Engine.warn readerTarget "Failed to dispose data reader on drop" []
        (r.dispose .blocking s).1.1 (r.dispose .blocking s).2) ∧
    ∀ mode next, b.Dismantled mode (r.disposalAt s) s (r.dispose mode s).1.1
        (r.rebind mode next s).2 ∧
      r.rebind mode next s = (do
        Engine.warn readerTarget "Failed to dispose previous data reader" []
          (r.dispose mode s).1.1
        return ofBinding next) (r.dispose mode s).2 := by
  have disposed := fun mode => dispose_dismantles mode phase s
  refine ⟨fun mode => ⟨disposed mode, ?_⟩, ⟨?_, r.drop_eq s⟩, fun mode next => ⟨?_, rfl⟩⟩
  · unfold dispose
    rw [phase]
    simp [retired, phase]
  · rw [drop_eq]
    exact (disposed .blocking).warned _ _ _ _
  · exact (disposed mode).warned _ _ _ _

omit [Driver σ] in
/-- A disposing hook cancels the context and closing the cursor fails: the command is disposed and
the connection is closed all the same, and the disposal ends as the cursor's failure. -/
theorem dismantles_of_failing_close :
    let hooks : ScriptedCommandHooks := { disposing := { cancels := some ⟨.user, none⟩ } }
    let logger : Logger Script := ⟨{}, [hooks.interceptor "stop" .both], []⟩
    let b : ReaderBinding Script := {
      command := .blank ⟨0⟩ 0
      cursor := .native ⟨⟨0⟩, 0⟩
      logger
      info := ⟨0, none, ⟨0⟩, .reader, .query, .async⟩ }
    let faults : NativeMethod → List (Option Fault)
      | .closeCursor => [some (.error (.custom "close failed"))]
      | _ => []
    let s : Session Script := {
      scene := ⟨{ connections := fun _ => { isOpen := true, faults } }, none⟩
      connections := fun _ => { openCount := 1, openedHere := true } }
    let r : DataReader Script := .ofBinding b
    r.phase = .bound b ∧
      b.Dismantled .async (r.disposalAt s) s (.error (.error (.custom "close failed")))
        (r.dispose .async s).2 ∧
      b.releaseCalls .async s = [.closeCursor ⟨⟨0⟩, 0⟩ .async, .clearParameters b.command,
        .dispose b.command .async, .closeConnection ⟨0⟩ .async] := by
  intro hooks logger b faults s r
  have phase : r.phase = .bound b := rfl
  have dismantled := ((dismantles r phase s).1 .async).1
  have outcome : (r.dispose .async s).1.1 = .error (.error (.custom "close failed")) := by
    decide +kernel +zetaReduce
  rw [outcome] at dismantled
  exact ⟨phase, dismantled, rfl⟩

end DataReader

end SqlExecution
