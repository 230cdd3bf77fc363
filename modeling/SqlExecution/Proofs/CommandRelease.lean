import SqlExecution.Proofs.Holdings
import SqlExecution.Proofs.ReaderLife
import SqlExecution.Scripted.Basic

/-! The native command of an execution. Once it exists it is cleared and disposed exactly once, and
then the open is given back that the execution took: at the end of an execution that fails or that
yields a value, and by the reader otherwise. -/

namespace SqlExecution

variable {σ α : Type}

theorem NativeCall.holds_of_reads {cursor : Cursor} {call : NativeCall} (c : NativeCommand)
    (reads : cursor.Reads call) : call.Holds c := by
  cases call <;> simp_all [Cursor.Reads, NativeCall.readsFrom?, Holds, releases, command?]

theorem NativeCall.holds_closeCursor (c : NativeCommand) (cursor : Cursor) (mode : Mode) :
    (closeCursor cursor mode).Holds c := ⟨rfl, by simp [command?]⟩

namespace Statement

variable {shape : Shape σ α} {s : Statement} {mode : Mode} {r : Request σ} {start t : Session σ}

theorem settled_of_released {id : ConnectionId} {created : Outcome (NativeCommand × Result Unit)}
    {c d : NativeCommand} {hooked : Result Unit} {held : Bool} {u : Session σ}
    (creates : created = .ok (c, hooked)) (same : d.Same c) (holds : c.Held id held start u)
    (released : d.Released mode id held u t) : Settled mode id created held start t := by
  rw [creates]
  exact ⟨d, u, same, holds, released⟩

variable [Driver σ]

theorem load_holds (c : NativeCommand) (cursor : Cursor) (mode : Mode) (columns : List ReaderColumn)
    (detailed : Bool) (s : Session σ) :
    s.Within (NativeCall.Holds c) ((cursor.load mode columns detailed).observe s).2 := by
  obtain ⟨t, drained, closed⟩ := cursor.load_closes mode columns detailed s
  have reads := drained.mono fun _ => NativeCall.holds_of_reads c
  exact reads.trans (closed.within (by simpa using NativeCall.holds_closeCursor c cursor mode))

theorem executeOnce_settled (faithful : shape.Faithful) (s : Statement) (mode : Mode)
    (r : Request σ)
    (start : Session σ) :
    Settled mode r.connection ((s.creation shape.method mode r).observe start).1
      ((s.opening shape.method mode r).observe start).1.isOk start
      ((s.executeOnce shape mode r).observe start).2 := by
  unfold executeOnce
  rcases ends : (s.execute shape mode r).observe start with ⟨failure | execution, u⟩
  · rw [Attempt.observe_bind_error ends]
    exact execute_settled faithful ends
  · obtain ⟨c, hooked, creates, opens, same, connection, holds⟩ := execute_held faithful ends
    rw [Attempt.observe_bind_ok ends, opens]
    have released := execution.command.cleanUp_released mode r.connection u
    have rest : Attempt.Only (fun _ => False) (do
        Attempt.ofOutcome (execution.command.cleanUp mode r.connection u).1
        return execution.output : Attempt σ α) := (Attempt.obeys_ofOutcome _).bind fun _ => .pure _
    exact settled_of_released creates same holds (released.before (rest _).silent)

theorem openCursor_settled {failure : Failure}
    (fails : (s.openCursor mode r).observe start = (.error failure, t)) :
    Settled mode r.connection ((s.creation .reader mode r).observe start).1
      ((s.opening .reader mode r).observe start).1.isOk start t := by
  have delivery := s.openCursor_delivery mode r start
  rw [fails] at delivery
  cases delivery with
  | unexecuted stops =>
    have settled := execute_settled Shape.reader_faithful stops
    simpa only [Shape.method_reader] using settled
  | @unloaded cursor d info columns _ u v executes declared stops =>
    obtain ⟨c, hooked, creates, opens, same, _, holds⟩ :=
      execute_held Shape.reader_faithful executes
    rw [Shape.method_reader] at creates opens
    rw [opens]
    have loaded := load_holds c cursor mode columns r.detailedErrors u
    rw [stops] at loaded
    have released := d.cleanUp_released mode r.connection v
    have warned := Session.Within.silent (Engine.obeys_warn Trace.commandTarget
      "Failed to clean up command after a reader error" [Trace.connectionField r.connection]
      (d.cleanUp mode r.connection v).1 (d.cleanUp mode r.connection v).2)
    exact settled_of_released creates same (holds.before loaded) (released.before warned)

theorem openCursor_held {b : ReaderBinding σ}
    (ends : (s.openCursor mode r).observe start = (.ok b, t)) :
    ∃ c hooked, ((s.creation .reader mode r).observe start).1 = .ok (c, hooked) ∧
      ((s.opening .reader mode r).observe start).1.isOk = true ∧ b.command.Same c ∧
      b.info.connection = r.connection ∧ c.Held r.connection true start t := by
  have delivery := s.openCursor_delivery mode r start
  rw [ends] at delivery
  cases delivery with
  | direct executes undeclared => exact execute_held Shape.reader_faithful executes
  | @loaded cursor d info columns buffer u _ executes declared loads =>
    obtain ⟨c, hooked, creates, opens, same, connection, holds⟩ :=
      execute_held Shape.reader_faithful executes
    have loaded := load_holds c cursor mode columns r.detailedErrors u
    rw [loads] at loaded
    exact ⟨c, hooked, creates, opens, same, connection, holds.before loaded⟩

/-- The creating step of a command that is not executed. -/
def drafting (method : Method) (r : Request σ) : Attempt σ (NativeCommand × Result Unit) := do
  yielded r (r.info (← Attempt.lift Engine.newTicket) method .blocking)

theorem createCommand_settles (s : Statement) (method : Method) (r : Request σ)
    (start : Session σ) :
    match s.createCommand method r start with
    | ((.error _, _), t) =>
      Settled .blocking r.connection ((drafting method r).observe start).1 false start t
    | ((.ok c, _), t) => ∃ d hooked, ((drafting method r).observe start).1 = .ok (d, hooked) ∧
      c.Same d ∧ start.Within (NativeCall.Holds d) t := by
  let info := r.info start.nextTicket method .blocking
  let t := (Engine.newTicket start).2
  have entered : ∀ P, start.Within P t := fun P => Engine.obeys_newTicket start
  have draft : (drafting method r).observe start = (yielded r info).observe t :=
    Attempt.observe_lift_bind _ _ start
  have ends : s.createCommand method r start =
      ((((s.prepare .blocking r info).observe t).1,
        ((s.prepare .blocking r info).observe t).2.commandIds start.nextTicket),
        ((s.prepare .blocking r info).observe t).2) := rfl
  have preparation := s.prepare_course .blocking r info t
  rw [ends, draft]
  rcases prepares : (s.prepare .blocking r info).observe t with ⟨failure | c, u⟩
  all_goals rw [prepares] at preparation
  · exact preparation.settled.after entered
  · obtain ⟨d, hooked, yields, same, within⟩ := preparation.held
    exact ⟨d, hooked, yields, same, (entered _).trans within⟩

/-- A native command that an execution got is cleared and disposed exactly once and is not used
after that; an open of the connection is given back then, if the execution got one. Only an
execution that returns a reader leaves this to the reader, which does it once in its life. Where no
command was created, the driver was asked for nothing else. -/
theorem command_released_once (s : Statement) (mode : Mode) (r : Request σ) (start : Session σ) :
    Settled mode r.connection ((s.creation .nonQuery mode r).observe start).1
      ((s.opening .nonQuery mode r).observe start).1.isOk start
      ((s.executeNonQuery mode r).observe start).2 ∧
    Settled mode r.connection ((s.creation .scalar mode r).observe start).1
      ((s.opening .scalar mode r).observe start).1.isOk start
      ((s.executeScalar mode r).observe start).2 ∧
    (∀ previous : Option (DataReader σ),
      match Command.executeReader mode r ⟨s, previous⟩ start with
      | ((.error _, _), t) =>
        Settled mode r.connection ((s.creation .reader mode r).observe start).1
          ((s.opening .reader mode r).observe start).1.isOk start t
      | ((.ok reader, _), t) => ∃ c hooked b u,
          ((s.creation .reader mode r).observe start).1 = .ok (c, hooked) ∧
          ((s.opening .reader mode r).observe start).1.isOk = true ∧
          b.command.Same c ∧ b.info.connection = r.connection ∧ c.Held r.connection true start u ∧
          t = ((ReaderUse.supersede mode b).perform (previous.getD {}) u).2 ∧
          reader = .ofBinding b ∧ reader.ReleasesOnce b.holding) ∧
    (∀ method, match s.createCommand method r start with
      | ((.error _, _), t) =>
        Settled .blocking r.connection ((drafting method r).observe start).1 false start t
      | ((.ok c, _), t) => ∃ d hooked, ((drafting method r).observe start).1 = .ok (d, hooked) ∧
        c.Same d ∧ start.Within (NativeCall.Holds d) t) := by
  refine ⟨executeOnce_settled Shape.nonQuery_faithful s mode r start,
    executeOnce_settled Shape.scalar_faithful s mode r start, fun previous => ?_,
    fun method => s.createCommand_settles method r start⟩
  rw [Command.executeReader_apply]
  dsimp only
  rcases opens : (s.openCursor mode r).observe start with ⟨failure | b, t⟩
  · exact openCursor_settled opens
  · obtain ⟨c, hooked, creates, opened, same, connection, holds⟩ := openCursor_held opens
    exact ⟨c, hooked, b, t, creates, opened, same, connection, holds, rfl, rfl,
      DataReader.releasesOnce_of_holding (DataReader.holding_ofBinding b)⟩

end Statement

end SqlExecution
