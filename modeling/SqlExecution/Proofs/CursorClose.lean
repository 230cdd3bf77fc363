import SqlExecution.Proofs.Holdings
import SqlExecution.Proofs.ReaderLife
import SqlExecution.Scripted.Hooks

/-! The cursor of an execution for a reader. It is closed once if the executed event succeeds: in
buffering, or else by the reader. If the executed event fails, it is never closed. -/

namespace SqlExecution

variable {σ α : Type}

def NativeCall.closes? : NativeCall → Option Cursor
  | closeCursor c _ => some c
  | _ => none

namespace Session

def ClosesNone (s t : Session σ) : Prop :=
  ∃ made, t.calls = s.calls ++ made ∧ ∀ call ∈ made, call.closes? = none

/-- From one moment to the other the cursor is closed once and nothing else is, and before that it
is only read from. -/
def ClosesOnce (mode : Mode) (c : Cursor) (s t : Session σ) : Prop :=
  ∃ read rest, t.calls = s.calls ++ (read ++ .closeCursor c mode :: rest) ∧
    (∀ call ∈ read, c.Reads call) ∧ ∀ call ∈ rest, call.closes? = none

variable {s t u : Session σ} {mode : Mode} {c : Cursor}

theorem ClosesNone.of_silent (silent : s.Issues [] t) : s.ClosesNone t :=
  ⟨[], silent.calls, by simp⟩

theorem ClosesNone.trans (first : s.ClosesNone t) (second : t.ClosesNone u) : s.ClosesNone u := by
  obtain ⟨made, calls, none⟩ := first
  obtain ⟨more, calls', none'⟩ := second
  refine ⟨made ++ more, ?_, List.forall_mem_append.2 ⟨none, none'⟩⟩
  rw [calls', calls, List.append_assoc]

theorem ClosesOnce.after (silent : s.Issues [] t) (closes : t.ClosesOnce mode c u) :
    s.ClosesOnce mode c u := by
  obtain ⟨read, rest, calls, reads, none⟩ := closes
  exact ⟨read, rest, by rw [calls, silent.calls, List.append_nil], reads, none⟩

theorem ClosesOnce.before (closes : s.ClosesOnce mode c t) (none : t.ClosesNone u) :
    s.ClosesOnce mode c u := by
  obtain ⟨read, rest, calls, reads, last⟩ := closes
  obtain ⟨made, calls', last'⟩ := none
  refine ⟨read, rest ++ made, ?_, reads, List.forall_mem_append.2 ⟨last, last'⟩⟩
  simp [calls', calls]

theorem ClosesNone.not_closesOnce (none : s.ClosesNone t) : ¬ s.ClosesOnce mode c t := by
  rintro ⟨read, rest, calls, -, -⟩
  obtain ⟨made, calls', shut⟩ := none
  have same : made = read ++ .closeCursor c mode :: rest :=
    List.append_cancel_left (calls'.symm.trans calls)
  have closes := shut (.closeCursor c mode) (by simp [same])
  simp [NativeCall.closes?] at closes

end Session

theorem NativeCommand.Released.closesNone {mode : Mode} {id : ConnectionId} {held : Bool}
    {c : NativeCommand} {s t : Session σ} (released : c.Released mode id held s t) :
    s.ClosesNone t := by
  obtain ⟨u, disposed, back⟩ := released
  have first : s.ClosesNone u := ⟨_, disposed.calls, by simp [NativeCall.closes?]⟩
  refine first.trans ⟨_, back.calls, ?_⟩
  cases held with
  | false => simp
  | true =>
    unfold ConnectionId.closeCalls
    split <;> simp [NativeCall.closes?]

theorem Cursor.load_closesOnce [Driver σ] (c : Cursor) (mode : Mode) (columns : List ReaderColumn)
    (detailed : Bool) (s : Session σ) :
    s.ClosesOnce mode c ((c.load mode columns detailed).observe s).2 := by
  obtain ⟨t, ⟨made, drained, reads⟩, closed⟩ := c.load_closes mode columns detailed s
  exact ⟨made, [], by rw [closed.calls, drained.calls, List.append_assoc], reads, by simp⟩

/-- What an execution for a reader makes of the cursor that it got. Where it fails, it has closed
the cursor; with declared columns it has closed it too; and otherwise it leaves it to the reader. -/
def Command.ClosesCursorOnce [Driver σ] (command : Command σ) (mode : Mode) (r : Request σ)
    (cursor : Cursor) (start fetched : Session σ) : Prop :=
  match command.executeReader mode r start with
  | ((.error _, _), t) => fetched.ClosesOnce mode cursor t
  | ((.ok reader, _), t) => ∃ b u,
    reader = .ofBinding b ∧
    t = ((ReaderUse.supersede mode b).perform (command.reader.getD {}) u).2 ∧
    reader.ReleasesOnce b.holding ∧
    (r.columns = none ∧ b.cursor.native? = some cursor ∧ fetched.ClosesNone u ∨
      r.columns ≠ none ∧ b.cursor.native? = none ∧ fetched.ClosesOnce mode cursor u)

namespace Command

variable [Driver σ] {command : Command σ} {mode : Mode} {r : Request σ} {start u v : Session σ}
  {setting : Setting σ} {c : NativeCommand} {reached : Reached σ Cursor}

theorem concluded_silent {o : Outcome Cursor}
    (concludes : (Statement.conclude .reader mode c reached).observe u = (o, v)) :
    u.Issues [] v := by
  have only : Attempt.Only (fun _ => False) (Statement.conclude .reader mode c reached) :=
    Statement.obeys_conclude Shape.reader_faithful (fun _ => Session.hears_within _)
      fun raised _ => Session.eachHook_within raised.1
  have silent := (only u).silent
  rwa [concludes] at silent

theorem closesNone_of_unconcluded {failure : Failure}
    (fetched : (command.statement.fetching .reader mode r).observe start =
      (.ok (setting, c, reached), u))
    (fails : (Statement.conclude .reader mode c reached).observe u = (.error failure, v)) :
    ∃ t, command.executeReader mode r start = ((.error failure, command), t) ∧ u.ClosesNone t := by
  have executes := Statement.execute_of_fetched fetched
  rw [fails] at executes
  have opens : (command.statement.openCursor mode r).observe start = (.error failure,
      (Statement.abandon mode setting.logger setting.info c failure.toError true v).2) :=
    Attempt.observe_bind_error executes _
  -- What gives the execution up knows the command and the open, but not the cursor.
  have released :=
    Statement.abandon_released mode setting.logger setting.info c failure.toError true v
  refine ⟨_, ?_, (Session.ClosesNone.of_silent (concluded_silent fails)).trans released.closesNone⟩
  rw [executeReader_apply, opens]

theorem closesCursorOnce_of_concluded {cursor : Cursor}
    (fetched : (command.statement.fetching .reader mode r).observe start =
      (.ok (setting, c, reached), u))
    (concludes : (Statement.conclude .reader mode c reached).observe u = (.ok cursor, v)) :
    command.ClosesCursorOnce mode r cursor start u := by
  have executed := Statement.execute_of_fetched fetched
  rw [concludes] at executed
  have silent := concluded_silent concludes
  have delivery := command.statement.openCursor_delivery mode r start
  unfold ClosesCursorOnce
  rw [executeReader_apply]
  rcases opens : (command.statement.openCursor mode r).observe start with ⟨failure | b, t⟩
  all_goals rw [opens] at delivery
  · cases delivery with
    | unexecuted stops =>
      rw [executed] at stops
      cases stops
    | @unloaded _ d info columns _ _ w executes declared stops =>
      rw [executed] at executes
      cases executes
      have loaded := cursor.load_closesOnce mode columns r.detailedErrors v
      rw [stops] at loaded
      have released := (c.cleanUp_released mode r.connection w).closesNone
      have warned := Session.Within.silent (Engine.obeys_warn Trace.commandTarget
        "Failed to clean up command after a reader error" [Trace.connectionField r.connection]
        (c.cleanUp mode r.connection w).1 (c.cleanUp mode r.connection w).2)
      exact (loaded.after silent).before (released.trans (.of_silent warned))
  · have releases := DataReader.releasesOnce_of_holding (DataReader.holding_ofBinding b)
    refine ⟨b, t, rfl, rfl, releases, ?_⟩
    cases delivery with
    | direct executes undeclared =>
      rw [executed] at executes
      cases executes
      exact .inl ⟨undeclared, rfl, .of_silent silent⟩
    | @loaded _ d info columns buffer _ _ executes declared loads =>
      rw [executed] at executes
      cases executes
      have loaded := cursor.load_closesOnce mode columns r.detailedErrors v
      rw [loads] at loaded
      exact .inr ⟨by simp [declared], rfl, loaded.after silent⟩

theorem not_closesCursorOnce_of_unconcluded {cursor : Cursor} {failure : Failure}
    (fetched : (command.statement.fetching .reader mode r).observe start =
      (.ok (setting, c, reached), u))
    (fails : (Statement.conclude .reader mode c reached).observe u = (.error failure, v)) :
    ¬ command.ClosesCursorOnce mode r cursor start u := by
  obtain ⟨t, ends, shut⟩ := closesNone_of_unconcluded fetched fails
  unfold ClosesCursorOnce
  rw [ends]
  exact shut.not_closesOnce

/-- A cursor that the driver gave an execution, and that no hook replaced, is closed once exactly if
the executed event succeeds. Otherwise the execution fails and nobody closes it. -/
theorem closesCursorOnce_iff_concluded (command : Command σ) (mode : Mode) (r : Request σ)
    (start : Session σ) {setting : Setting σ} {c : NativeCommand} {cursor : Cursor}
    {raised : Option (Logger σ × CommandEvent)} {u : Session σ}
    (fetched : (command.statement.fetching .reader mode r).observe start =
      (.ok (setting, c, ⟨cursor, true, raised⟩), u))
    (kept : ∀ other, ((Statement.conclude .reader mode c ⟨cursor, true, raised⟩).observe u).1 =
      .ok other → other = cursor) :
    (command.ClosesCursorOnce mode r cursor start u ↔
      ((Statement.conclude .reader mode c ⟨cursor, true, raised⟩).observe u).1.isOk = true) ∧
    (∀ failure, ((Statement.conclude .reader mode c ⟨cursor, true, raised⟩).observe u).1 =
      .error failure →
      ∃ t, command.executeReader mode r start = ((.error failure, command), t) ∧
        u.ClosesNone t) := by
  rcases ends : (Statement.conclude .reader mode c ⟨cursor, true, raised⟩).observe u
    with ⟨failure | other, v⟩
  · have never : ¬ command.ClosesCursorOnce mode r cursor start u :=
      not_closesCursorOnce_of_unconcluded fetched ends
    refine ⟨⟨fun once => absurd once never, fun ok => nomatch ok⟩, fun failure' same => ?_⟩
    cases same
    exact closesNone_of_unconcluded fetched ends
  · have same : other = cursor := kept other (by rw [ends])
    rw [same] at ends
    have once : command.ClosesCursorOnce mode r cursor start u :=
      closesCursorOnce_of_concluded fetched ends
    exact ⟨⟨fun _ => rfl, fun _ => once⟩, fun failure fails => nomatch fails⟩

/-- Buffered under a hook that passes it on, the cursor is closed once. -/
theorem closesCursorOnce_of_passing_hook :
    let command : Command Script := { statement := ⟨"SELECT 1", []⟩ }
    let hooks : ScriptedCommandHooks := {}
    let logger : Logger Script := ⟨{}, [hooks.interceptor "watch" .both], []⟩
    let r : Request Script :=
      { connection := ⟨0⟩, columns := some [], logger, detailedErrors := false }
    let start : Session Script := { scene := ⟨{}, none⟩ }
    ∃ setting c cursor raised u,
      (command.statement.fetching .reader .async r).observe start =
        (.ok (setting, c, ⟨cursor, true, raised⟩), u) ∧
      command.ClosesCursorOnce .async r cursor start u := by
  intro command hooks logger r start
  have native : ((command.statement.fetching .reader .async r).observe start).1.toOption.map
      (fun x => (x.2.2.output, x.2.2.native)) = some (⟨⟨0⟩, 0⟩, true) := by
    decide +kernel +zetaReduce
  have concludes : ((command.statement.fetching .reader .async r >>= fun x =>
      Statement.conclude .reader .async x.2.1 x.2.2).observe start).1.toOption = some ⟨⟨0⟩, 0⟩ := by
    decide +kernel +zetaReduce
  rcases fetched : (command.statement.fetching .reader .async r).observe start with
    ⟨failure | ⟨setting, c, cursor, supplied, raised⟩, u⟩
  · rw [fetched] at native
    cases native
  · rw [Attempt.observe_bind_ok fetched] at concludes
    rw [fetched] at native
    cases native
    rcases ends : ((Statement.conclude .reader .async c ⟨⟨⟨0⟩, 0⟩, true, raised⟩).observe u).1
      with failure | cursor
    · rw [ends] at concludes
      cases concludes
    · rw [ends] at concludes
      cases concludes
      have kept : ∀ other,
          ((Statement.conclude .reader .async c ⟨⟨⟨0⟩, 0⟩, true, raised⟩).observe u).1 = .ok other →
            other = ⟨⟨0⟩, 0⟩ := by
        intro other ok
        rw [ends] at ok
        cases ok
        rfl
      have closes := (closesCursorOnce_iff_concluded command .async r start fetched kept).1
      refine ⟨setting, c, ⟨⟨0⟩, 0⟩, raised, u, rfl, ?_⟩
      rw [closes, ends]
      rfl

/-- A hook that fails after the command was executed leaves the cursor open. -/
theorem not_closesCursorOnce_of_failing_hook :
    let command : Command Script := { statement := ⟨"SELECT 1", []⟩ }
    let hooks : ScriptedCommandHooks := { readerExecuted := { error := some (.custom "boom") } }
    let logger : Logger Script := ⟨{}, [hooks.interceptor "watch" .both], []⟩
    let r : Request Script := { connection := ⟨0⟩, logger, detailedErrors := false }
    let start : Session Script := { scene := ⟨{}, none⟩ }
    ∃ setting c cursor raised u,
      (command.statement.fetching .reader .blocking r).observe start =
        (.ok (setting, c, ⟨cursor, true, raised⟩), u) ∧
      ¬ command.ClosesCursorOnce .blocking r cursor start u := by
  intro command hooks logger r start
  have native : ((command.statement.fetching .reader .blocking r).observe start).1.toOption.map
      (fun x => x.2.2.native) = some true := by decide +kernel +zetaReduce
  have fails : ((command.statement.fetching .reader .blocking r >>= fun x =>
      Statement.conclude .reader .blocking x.2.1 x.2.2).observe start).1.toOption = none := by
    decide +kernel +zetaReduce
  rcases fetched : (command.statement.fetching .reader .blocking r).observe start with
    ⟨failure | ⟨setting, c, cursor, supplied, raised⟩, u⟩
  · rw [fetched] at native
    cases native
  · rw [Attempt.observe_bind_ok fetched] at fails
    rw [fetched] at native
    cases native
    rcases ends : (Statement.conclude .reader .blocking c ⟨cursor, true, raised⟩).observe u
      with ⟨failure | other, v⟩
    · exact ⟨setting, c, cursor, raised, u, rfl, not_closesCursorOnce_of_unconcluded fetched ends⟩
    · rw [ends] at fails
      cases fails

end Command

end SqlExecution
