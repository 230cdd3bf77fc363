import SqlExecution.Proofs.Laws.Holders
import SqlExecution.Proofs.Twins.Statements

/-! Data readers and commands in two runs. -/

namespace SqlExecution

variable {σ α : Type}

open Session Trace

namespace Blur

variable {b : Blur}

theorem Heard.of_same {l l' : Option (Logger σ)} (same : b.logger l = b.logger l')
    (suits : ∀ x ∈ l, b.Suits x) (shown : ∀ x ∈ l', b.diagnostics = false) : b.Heard l l' where
  suits := suits
  same := by
    cases seen : b.diagnostics with
    | true =>
      have none : l' = none := Option.eq_none_iff_forall_not_mem.2 fun x member => by
        rw [shown x member] at seen
        cases seen
      exact none.trans (detail_of_overlooked seen).symm
    | false => rw [same]; exact (detail_of_shown seen).symm

theorem Heard.shown {l l' : Option (Logger σ)} (heard : b.Heard l l') :
    ∀ x ∈ l', b.diagnostics = false := by
  cases seen : b.diagnostics with
  | true =>
    rw [heard.eq_none seen]
    exact fun x member => by cases member
  | false => exact fun _ _ => rfl

/-- Two readers that a comparison does not tell apart. -/
structure Readers (b : Blur) (r r' : DataReader σ) : Prop where
  same : b.reader r = b.reader r'
  heard : b.Heard r.logger? r'.logger?

theorem cursor_reader (r : DataReader σ) : (b.reader r).cursor? = r.cursor? := by
  unfold DataReader.cursor? reader
  cases r.phase <;> rfl

theorem notOpen_reader (r : DataReader σ) : (b.reader r).notOpen = r.notOpen := by
  unfold DataReader.notOpen reader
  cases r.phase <;> rfl

theorem logger_reader (r : DataReader σ) : (b.reader r).logger? = b.logger r.logger? := by
  unfold DataReader.logger? reader
  cases r.phase with
  | bound x => rfl
  | uninitialized => simp [phase, ReaderPhase.binding?, logger, detail]
  | disposed => simp [phase, ReaderPhase.binding?, logger, detail]

theorem reader_withBuffer (r : DataReader σ) (x : BufferedReader) :
    b.reader (r.withBuffer x) = (b.reader r).withBuffer x := by
  obtain ⟨phase, ticket, count⟩ := r
  cases phase <;> rfl

theorem reader_counted (r : DataReader σ) (o : Outcome Bool) :
    b.reader (r.counted o) = (b.reader r).counted o := by
  rcases o with failure | _ | _ <;> rfl

theorem reader_retired (r : DataReader σ) : b.reader r.retired = (b.reader r).retired := by
  obtain ⟨phase, ticket, count⟩ := r
  cases phase <;> rfl

theorem reader_ofBinding (x : ReaderBinding σ) :
    b.reader (.ofBinding x) = .ofBinding (b.binding x) := rfl

theorem Readers.of_same {r r' : DataReader σ} (same : b.reader r = b.reader r')
    (suits : ∀ l ∈ r.logger?, b.Suits l) (shown : ∀ l ∈ r'.logger?, b.diagnostics = false) :
    b.Readers r r' where
  same := same
  heard := .of_same (by rw [← logger_reader r, same, logger_reader]) suits shown

section Same

variable {r r' : DataReader σ} (same : b.reader r = b.reader r')
include same

theorem cursor_eq : r.cursor? = r'.cursor? := by rw [← cursor_reader r, same, cursor_reader]

theorem notOpen_eq : r.notOpen = r'.notOpen := by rw [← notOpen_reader r, same, notOpen_reader]

theorem readCount_eq : r.readCount = r'.readCount := (congrArg DataReader.readCount same :)

end Same

end Blur

variable [Driver σ] {b : Blur} {heeds : Prop} {mode mode' : Mode}

namespace DataReader

section Reading

variable {r r' : DataReader σ} (same : b.reader r = b.reader r')
include same

theorem match_fieldCount : Engine.Match b heeds id r.fieldCount r'.fieldCount := by
  unfold fieldCount
  rw [Blur.cursor_eq same]
  rcases r'.cursor? with _ | c | x
  · exact .pure rfl
  · exact c.match_fieldCount
  · exact .pure rfl

theorem match_recordsAffected : Engine.Match b heeds id r.recordsAffected r'.recordsAffected := by
  unfold recordsAffected
  rw [Blur.cursor_eq same]
  rcases r'.cursor? with _ | c | x
  · exact .pure rfl
  · exact c.match_recordsAffected
  · exact .pure rfl

theorem match_remaining : Engine.Match b heeds id r.remaining r'.remaining := by
  unfold remaining
  rw [Blur.cursor_eq same]
  rcases r'.cursor? with _ | c | x
  · exact .pure rfl
  · exact c.match_remaining
  · exact .pure rfl

theorem match_columnName (ordinal : Nat) :
    Engine.Match b heeds id (r.columnName ordinal) (r'.columnName ordinal) := by
  unfold columnName
  rw [Blur.cursor_eq same, Blur.notOpen_eq same]
  rcases r'.cursor? with _ | c | x
  · exact .pure rfl
  · exact c.match_columnName ordinal
  · exact .pure rfl

theorem match_getValue (ordinal : Nat) :
    Engine.Match b heeds id (r.getValue ordinal) (r'.getValue ordinal) := by
  unfold getValue
  rw [Blur.cursor_eq same, Blur.notOpen_eq same]
  rcases r'.cursor? with _ | c | x
  · exact .pure rfl
  · exact c.match_getValue ordinal
  · exact .pure rfl

theorem match_isNull (ordinal : Nat) :
    Engine.Match b heeds id (r.isNull ordinal) (r'.isNull ordinal) :=
  (match_getValue same ordinal).andThen fun _ => .pure rfl

theorem match_cells (ordinals : List Nat) :
    Engine.Match b heeds id (r.cells ordinals) (r'.cells ordinals) := by
  induction ordinals with
  | nil => exact .pure rfl
  | cons ordinal rest ih =>
    unfold cells
    refine (match_getValue same ordinal).andThen fun value => ?_
    cases value with
    | ok v => exact ih.andThen fun _ => .pure rfl
    | error e => exact .pure rfl

end Reading

section Moving

variable (even : b.forms = true → Driver.Even σ) (forms : b.Forms heeds mode mode')
include even forms

theorem match_read {r r' : DataReader σ} (same : b.reader r = b.reader r') :
    Engine.Match b heeds (Prod.map id b.reader) (r.read mode) (r'.read mode') := by
  unfold read
  rw [Blur.cursor_eq same, Blur.notOpen_eq same]
  rcases r'.cursor? with _ | c | x
  · exact .pure (congrArg (Prod.mk _) same)
  · refine (c.match_read even forms).seen.andThen fun o => .pure (congrArg (Prod.mk o) ?_)
    rw [Blur.reader_counted, Blur.reader_counted, same]
  · refine .pure (congrArg (Prod.mk _) ?_)
    rw [Blur.reader_counted, Blur.reader_counted, Blur.reader_withBuffer, Blur.reader_withBuffer,
      same]

theorem match_nextResult {r r' : DataReader σ} (same : b.reader r = b.reader r') :
    Engine.Match b heeds (Prod.map id b.reader) (r.nextResult mode) (r'.nextResult mode') := by
  unfold nextResult
  rw [Blur.cursor_eq same, Blur.notOpen_eq same]
  rcases r'.cursor? with _ | c | x
  · exact .pure (congrArg (Prod.mk _) same)
  · exact (c.match_nextResult even forms).seen.andThen fun o => .pure (congrArg (Prod.mk o) same)
  · refine .pure (congrArg (Prod.mk _) ?_)
    rw [Blur.reader_withBuffer, Blur.reader_withBuffer, same]

end Moving

section Draining

variable (even : b.forms = true → Driver.Even σ)
include even

theorem match_drainRows (n : Nat) {r r' : DataReader σ} (same : b.reader r = b.reader r') :
    Engine.Match b heeds (Prod.map id b.reader) (r.drainRows n) (r'.drainRows n) := by
  induction n generalizing r r' with
  | zero => exact .pure (congrArg (Prod.mk _) same)
  | succ n ih =>
    unfold drainRows
    refine (match_read even Blur.forms_blocking same).bind fun x x' alike => ?_
    obtain ⟨o, r₁⟩ := x
    obtain ⟨o', r₁'⟩ := x'
    obtain ⟨rfl, same⟩ := Prod.mk.inj alike
    rcases o with failure | _ | _
    · exact .pure (congrArg (Prod.mk _) same)
    · exact .pure (congrArg (Prod.mk _) same)
    · refine (match_fieldCount same).andThen fun fields => ?_
      refine (match_cells same _).andThen fun row => ?_
      cases row with
      | error e => exact .pure (congrArg (Prod.mk _) same)
      | ok row =>
        refine (ih same).bind fun y y' alike => ?_
        obtain ⟨rows, last⟩ := Prod.mk.inj alike
        exact .pure (Prod.ext (congrArg (Except.map (row :: ·)) rows) last)

theorem match_drainSets (rowBound n : Nat) {r r' : DataReader σ} (same : b.reader r = b.reader r') :
    Engine.Match b heeds (Prod.map id b.reader) (r.drainSets rowBound n)
      (r'.drainSets rowBound n) := by
  induction n generalizing r r' with
  | zero => exact .pure (congrArg (Prod.mk _) same)
  | succ n ih =>
    unfold drainSets
    refine (match_drainRows even rowBound same).bind fun x x' alike => ?_
    obtain ⟨rows, r₁⟩ := x
    obtain ⟨rows', r₁'⟩ := x'
    obtain ⟨rfl, same⟩ := Prod.mk.inj alike
    cases rows with
    | error e => exact .pure (congrArg (Prod.mk _) same)
    | ok rows =>
      refine (match_nextResult even Blur.forms_blocking same).bind fun y y' alike => ?_
      obtain ⟨o, r₂⟩ := y
      obtain ⟨o', r₂'⟩ := y'
      obtain ⟨rfl, same⟩ := Prod.mk.inj alike
      rcases o with failure | _ | _
      · exact .pure (congrArg (Prod.mk _) same)
      · exact .pure (congrArg (Prod.mk _) same)
      · refine (ih same).bind fun z z' alike => ?_
        obtain ⟨sets, last⟩ := Prod.mk.inj alike
        exact .pure (Prod.ext (congrArg (Except.map (rows :: ·)) sets) last)

theorem match_drain {r r' : DataReader σ} (same : b.reader r = b.reader r') :
    Engine.Match b heeds (Prod.map id b.reader) r.drain r'.drain :=
  (match_remaining same).andThen fun _ => match_drainSets even _ _ same

end Draining

section Releasing

variable (forms : b.Forms heeds mode mode')
include forms

theorem match_announce {r r' : DataReader σ} (same : b.reader r = b.reader r')
    {x x' : ReaderBinding σ} (bindings : b.binding x = b.binding x')
    (heard : b.Heard x.logger x'.logger) :
    Engine.Match b heeds id (r.announce mode x) (r'.announce mode' x') := by
  have infos : b.info x.info = b.info x'.info := (congrArg ReaderBinding.info bindings :)
  have command : x.command = x'.command := (congrArg ReaderBinding.command bindings :)
  unfold announce
  rw [command, Blur.readCount_eq same]
  refine Engine.match_raising _ heard fun raised raised' heard => ?_
  cases heard.listeners with
  | neither => exact .pure rfl
  | both l shown hooks =>
    refine (ExecutionInfo.match_event shown infos).bind fun event event' events => ?_
    refine (match_recordsAffected same).andThen fun affected => ?_
    exact Logger.match_readerDisposing hooks events forms.same _ _
  | first l overlooked still =>
    refine Engine.Match.skip x.info.obeys_event (x.info.idle_event overlooked) fun event => ?_
    have reads : Engine.Match b heeds id r.recordsAffected r'.recordsAffected :=
      match_recordsAffected same
    have silent : Engine.Idle b heeds (fun _ => True) r.recordsAffected := by
      unfold recordsAffected
      rcases r.cursor? with _ | c | y
      · exact .pure trivial
      · exact .of_silent fun _ => rfl
      · exact .pure trivial
    refine Engine.Match.skip reads.reveals silent fun affected => ?_
    exact .of_idle (l.reveals_readerDisposing mode _ event _)
      ((l.idle_readerDisposing overlooked still _ event _).mono fun _ _ => rfl)

variable (even : b.forms = true → Driver.Even σ)
include even

theorem match_closeCursor (x : DataCursor) :
    Engine.Match b heeds id (closeCursor mode x : Engine σ (Outcome Unit))
      (closeCursor mode' x) := by
  cases x with
  | native c => exact (c.match_close even forms).seen
  | buffered y => exact .pure rfl

theorem match_releaseBinding {x x' : ReaderBinding σ} (bindings : b.binding x = b.binding x') :
    Engine.Match b heeds id (releaseBinding mode x) (releaseBinding mode' x') := by
  have cursor : x.cursor = x'.cursor := (congrArg ReaderBinding.cursor bindings :)
  have command : x.command = x'.command := (congrArg ReaderBinding.command bindings :)
  have connection : x.info.connection = x'.info.connection :=
    (congrArg (·.info.connection) bindings :)
  unfold releaseBinding
  rw [cursor, command, connection]
  refine (match_closeCursor forms even _).andThen fun closed => ?_
  refine (NativeCommand.match_cleanUp even forms _ _).andThen fun cleaned => ?_
  rcases closed with failure | _
  · exact (Engine.match_warn _ _ _ cleaned).andThen fun _ => .pure rfl
  · rcases cleaned with failure | _
    · exact .pure rfl
    · exact (Attempt.match_checkpoint forms).seen

theorem match_dispose {r r' : DataReader σ} (readers : b.Readers r r') :
    Engine.Match b heeds (Prod.map id b.reader) (r.dispose mode) (r'.dispose mode') := by
  obtain ⟨same, heard⟩ := readers
  have phases : b.phase r.phase = b.phase r'.phase := (congrArg DataReader.phase same :)
  have kept : b.reader r.retired = b.reader r'.retired := by
    rw [Blur.reader_retired, Blur.reader_retired, same]
  unfold dispose
  rcases phase : r.phase with _ | x | _ <;> rcases phase' : r'.phase with _ | x' | _ <;>
    rw [phase, phase'] at phases <;> try cases phases
  · exact .pure (congrArg (Prod.mk _) same)
  · have bindings : b.binding x = b.binding x' := ReaderPhase.bound.inj phases
    have loggers : b.Heard x.logger x'.logger := by
      simpa [logger?, phase, phase', ReaderPhase.binding?] using heard
    refine (match_announce forms same bindings loggers).andThen fun _ => ?_
    refine (match_releaseBinding forms even bindings).andThen fun o => ?_
    exact .pure (congrArg (Prod.mk o) kept)
  · exact .pure (congrArg (Prod.mk _) same)

omit forms in
theorem match_drop {r r' : DataReader σ} (readers : b.Readers r r') :
    Engine.Match b heeds id r.drop r'.drop := by
  unfold drop
  refine (match_dispose Blur.forms_blocking even readers).bind fun x x' alike => ?_
  obtain ⟨o, r₁⟩ := x
  obtain ⟨o', r₁'⟩ := x'
  obtain ⟨rfl, -⟩ := Prod.mk.inj alike
  rcases o with failure | _
  · exact Engine.match_trace _ _ _ rfl
  · exact .pure rfl

theorem match_rebind {r r' : DataReader σ} (readers : b.Readers r r') {x x' : ReaderBinding σ}
    (bindings : b.binding x = b.binding x') :
    Engine.Match b heeds b.reader (r.rebind mode x) (r'.rebind mode' x') := by
  refine (match_dispose forms even readers).bind fun y y' alike => ?_
  obtain ⟨o, r₁⟩ := y
  obtain ⟨o', r₁'⟩ := y'
  obtain ⟨rfl, -⟩ := Prod.mk.inj alike
  refine (Engine.match_warn _ _ _ o).andThen fun _ => .pure ?_
  rw [Blur.reader_ofBinding, Blur.reader_ofBinding, bindings]

end Releasing

end DataReader

namespace Blur

/-- Two commands that a comparison does not tell apart. -/
structure Commands (b : Blur) (c c' : Command σ) : Prop where
  same : b.command c = b.command c'
  heard : b.Heard c.readerLogger? c'.readerLogger?

omit [Driver σ] in
theorem Commands.reader {c c' : Command σ} (commands : b.Commands c c') :
    (c.reader = none ∧ c'.reader = none) ∨
      ∃ r r', c.reader = some r ∧ c'.reader = some r' ∧ b.Readers r r' := by
  have readers : c.reader.map b.reader = c'.reader.map b.reader :=
    (congrArg Command.reader commands.same :)
  have heard := commands.heard
  unfold Command.readerLogger? at heard
  rcases kept : c.reader with _ | r <;> rcases kept' : c'.reader with _ | r' <;>
    rw [kept, kept'] at readers heard
  · exact .inl ⟨rfl, rfl⟩
  · cases readers
  · cases readers
  · exact .inr ⟨r, r', rfl, rfl, Option.some.inj readers, heard⟩

omit [Driver σ] in
theorem Commands.readers {c c' : Command σ} (commands : b.Commands c c') :
    b.Readers (c.reader.getD {}) (c'.reader.getD {}) := by
  rcases commands.reader with ⟨none, none'⟩ | ⟨r, r', some, some', readers⟩
  · rw [none, none']
    exact ⟨rfl, .nothing⟩
  · rw [some, some']
    exact readers

omit [Driver σ] in
theorem Commands.of_same {c c' : Command σ} (same : b.command c = b.command c')
    (suits : ∀ l ∈ c.readerLogger?, b.Suits l)
    (shown : ∀ l ∈ c'.readerLogger?, b.diagnostics = false) : b.Commands c c' where
  same := same
  heard := by
    have blurred : ∀ c : Command σ, (b.command c).readerLogger? = b.logger c.readerLogger? := by
      intro c
      unfold Command.readerLogger? command
      cases c.reader with
      | none => simp [Blur.logger, detail]
      | some r => exact logger_reader r
    exact .of_same (by rw [← blurred c, same, blurred]) suits shown

omit [Driver σ] in
theorem Commands.withReader {c c' : Command σ} (commands : b.Commands c c') {r r' : DataReader σ}
    (readers : b.Readers r r') :
    b.Commands { c with reader := some r } { c' with reader := some r' } where
  same := by
    have statement : c.statement = c'.statement := (congrArg Command.statement commands.same :)
    simp only [command, statement, Option.map_some, readers.same]
  heard := readers.heard

end Blur

namespace Command

variable (even : b.forms = true → Driver.Even σ) {c c' : Command σ} (commands : b.Commands c c')
include even commands

theorem match_executeReader (forms : b.Forms heeds mode mode') {r : Request σ}
    (suits : ∀ l ∈ r.logger, b.Suits l) :
    Engine.Match b heeds (Prod.map (Except.map b.reader) b.command) (c.executeReader mode r)
      (c'.executeReader mode' (b.request r)) := by
  have statement : c.statement = c'.statement := (congrArg Command.statement commands.same :)
  unfold executeReader
  rw [statement]
  refine Engine.Match.bind (Statement.match_openCursor even suits c'.statement forms)
    fun o o' alike => ?_
  rcases o with failure | x <;> rcases o' with failure' | x'
  · cases Except.error.inj alike
    exact .pure (congrArg (Prod.mk _) commands.same)
  · cases alike
  · cases alike
  · have bindings : b.binding x = b.binding x' := Except.ok.inj alike
    refine (DataReader.match_rebind forms even commands.readers bindings).bind
      fun reader reader' same => .pure ?_
    refine Prod.ext (congrArg Except.ok same) ?_
    simp only [Prod.map, Blur.command, Option.map_some, same]

theorem match_drop : Engine.Match b heeds id c.drop c'.drop := by
  unfold drop
  rcases commands.reader with ⟨none, none'⟩ | ⟨r, r', some, some', readers⟩
  · rw [none, none']
    exact .pure rfl
  · rw [some, some']
    exact DataReader.match_drop even readers

end Command

end SqlExecution
