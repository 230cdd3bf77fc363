import SqlExecution.Proofs.Tandem.Executions

/-! Using a data reader in tandem. The readers of the two runs hold the same but for the command, and
stay alike however they are used. -/

namespace SqlExecution

variable {σ α β γ δ : Type}

open Session Trace

namespace Tandem

inductive Phases (t : Tandem σ) : ReaderPhase σ → ReaderPhase σ → Prop where
  | uninitialized : Phases t .uninitialized .uninitialized
  | bound {b b' : ReaderBinding σ} (bindings : t.Bindings b b') : Phases t (.bound b) (.bound b')
  | disposed : Phases t .disposed .disposed

/-- Readers of the two runs. -/
structure Readers (t : Tandem σ) (r r' : DataReader σ) : Prop where
  phase : t.Phases r.phase r'.phase
  ticket : r'.ticket = r.ticket
  readCount : r'.readCount = r.readCount

variable {t : Tandem σ} {r r' : DataReader σ}

namespace Readers

theorem fresh : t.Readers {} {} := ⟨.uninitialized, rfl, rfl⟩

theorem ofBinding {b b' : ReaderBinding σ} (bindings : t.Bindings b b') :
    t.Readers (.ofBinding b) (.ofBinding b') :=
  ⟨.bound bindings, by rw [bindings.same]; rfl, rfl⟩

theorem cursor (readers : t.Readers r r') : r'.cursor? = r.cursor? := by
  obtain ⟨phase, ticket, readCount⟩ := r
  obtain ⟨phase', ticket', readCount'⟩ := r'
  cases readers.phase with
  | uninitialized => rfl
  | bound bindings => exact congrArg (some ·.cursor) bindings.same
  | disposed => rfl

theorem notOpen (readers : t.Readers r r') : r'.notOpen = r.notOpen := by
  obtain ⟨phase, ticket, readCount⟩ := r
  obtain ⟨phase', ticket', readCount'⟩ := r'
  cases readers.phase <;> rfl

theorem withBuffer (readers : t.Readers r r') (b : BufferedReader) :
    t.Readers (r.withBuffer b) (r'.withBuffer b) := by
  obtain ⟨phase, ticket, readCount⟩ := r
  obtain ⟨phase', ticket', readCount'⟩ := r'
  cases readers.phase with
  | uninitialized => exact readers
  | bound bindings =>
    refine ⟨.bound ⟨bindings.commands, ?_, bindings.suits⟩, readers.ticket,
      readers.readCount⟩
    exact congrArg (fun x => { x with cursor := DataCursor.buffered b }) bindings.same
  | disposed => exact readers

theorem counted (readers : t.Readers r r') (o : Outcome Bool) :
    t.Readers (r.counted o) (r'.counted o) := by
  unfold DataReader.counted
  split
  · exact ⟨readers.phase, readers.ticket, congrArg (· + 1) readers.readCount⟩
  · exact readers

theorem retired (readers : t.Readers r r') : t.Readers r.retired r'.retired := by
  obtain ⟨phase, ticket, readCount⟩ := r
  obtain ⟨phase', ticket', readCount'⟩ := r'
  cases readers.phase with
  | uninitialized => exact readers
  | bound bindings => exact ⟨.disposed, readers.ticket, readers.readCount⟩
  | disposed => exact readers

end Readers

theorem bindings_of_eq (scenes : t.scenes = Eq) (commands : t.commands = Eq) (b : ReaderBinding σ) :
    t.Bindings b b :=
  ⟨by rw [commands], rfl, fun l _ => suits_of_eq scenes commands l⟩

theorem readers_of_eq (scenes : t.scenes = Eq) (commands : t.commands = Eq) (r : DataReader σ) :
    t.Readers r r := by
  refine ⟨?_, rfl, rfl⟩
  cases r.phase with
  | uninitialized => exact .uninitialized
  | bound b => exact .bound (bindings_of_eq scenes commands b)
  | disposed => exact .disposed

/-- The outcome of a use and the reader after it. -/
def Uses (t : Tandem σ) (x x' : α × DataReader σ) : Prop := x'.1 = x.1 ∧ t.Readers x.2 x'.2

theorem Runs.use {m m' : Engine σ (α × DataReader σ)} {f f' : α × DataReader σ → Engine σ γ}
    {W : γ → γ → Prop} (first : t.Runs t.Uses m m')
    (rest : ∀ a r r', t.Readers r r' → t.Runs W (f (a, r)) (f' (a, r'))) :
    t.Runs W (m >>= f) (m' >>= f') :=
  first.bind fun x x' uses => by
    obtain ⟨a, r⟩ := x
    obtain ⟨a', r'⟩ := x'
    obtain ⟨same, readers⟩ := uses
    cases same
    exact rest a r r' readers

variable [Driver σ] (watches : t.Watches) (answers : t.Answers)

section Looking

variable (readers : t.Readers r r')
include answers readers

theorem runs_readerRecordsAffected : t.Runs Eq r.recordsAffected r'.recordsAffected := by
  unfold DataReader.recordsAffected
  rw [readers.cursor]
  rcases r.cursor? with _ | c | b
  · exact .pure rfl
  · exact runs_recordsAffected answers c
  · exact .pure rfl

include watches

theorem runs_readerColumnName (ordinal : Nat) :
    t.Runs Eq (r.columnName ordinal) (r'.columnName ordinal) := by
  unfold DataReader.columnName
  rw [readers.cursor, readers.notOpen]
  rcases r.cursor? with _ | c | b
  · exact .pure rfl
  · exact runs_columnName watches answers c ordinal
  · exact .pure rfl

theorem runs_readerGetValue (ordinal : Nat) :
    t.Runs Eq (r.getValue ordinal) (r'.getValue ordinal) := by
  unfold DataReader.getValue
  rw [readers.cursor, readers.notOpen]
  rcases r.cursor? with _ | c | b
  · exact .pure rfl
  · exact runs_getValue watches answers c ordinal
  · exact .pure rfl

theorem runs_isNull (ordinal : Nat) : t.Runs Eq (r.isNull ordinal) (r'.isNull ordinal) :=
  (runs_readerGetValue watches answers readers ordinal).andThen fun _ => .pure rfl

theorem runs_read (mode : Mode) : t.Runs t.Uses (r.read mode) (r'.read mode) := by
  unfold DataReader.read
  rw [readers.cursor, readers.notOpen]
  rcases r.cursor? with _ | c | b
  · exact .pure ⟨rfl, readers⟩
  · exact (tries_read watches answers c mode).seen.andThen fun o => .pure ⟨rfl, readers.counted o⟩
  · exact .pure ⟨rfl, (readers.withBuffer _).counted _⟩

theorem runs_nextResult (mode : Mode) : t.Runs t.Uses (r.nextResult mode) (r'.nextResult mode) := by
  unfold DataReader.nextResult
  rw [readers.cursor, readers.notOpen]
  rcases r.cursor? with _ | c | b
  · exact .pure ⟨rfl, readers⟩
  · exact (tries_nextResult watches answers c mode).seen.andThen fun _ => .pure ⟨rfl, readers⟩
  · exact .pure ⟨rfl, readers.withBuffer _⟩

end Looking

section Draining

include watches answers

theorem runs_cells (readers : t.Readers r r') (ordinals : List Nat) :
    t.Runs Eq (r.cells ordinals) (r'.cells ordinals) := by
  induction ordinals with
  | nil => exact .pure rfl
  | cons ordinal rest ih =>
    unfold DataReader.cells
    refine (runs_readerGetValue watches answers readers ordinal).andThen fun found => ?_
    cases found with
    | ok v => exact ih.andThen fun _ => .pure rfl
    | error e => exact .pure rfl

omit watches in
theorem runs_readerFieldCount (readers : t.Readers r r') :
    t.Runs Eq r.fieldCount r'.fieldCount := by
  unfold DataReader.fieldCount
  rw [readers.cursor]
  rcases r.cursor? with _ | c | b
  · exact .pure rfl
  · exact runs_fieldCount answers c
  · exact .pure rfl

theorem runs_drainRows (n : Nat) (readers : t.Readers r r') :
    t.Runs t.Uses (r.drainRows n) (r'.drainRows n) := by
  induction n generalizing r r' with
  | zero => exact .pure ⟨rfl, readers⟩
  | succ n ih =>
    unfold DataReader.drainRows
    refine (runs_read watches answers readers .blocking).use fun o r r' readers => ?_
    rcases o with failure | _ | _
    · exact .pure ⟨rfl, readers⟩
    · exact .pure ⟨rfl, readers⟩
    · refine (runs_readerFieldCount answers readers).andThen fun fields => ?_
      refine (runs_cells watches answers readers _).andThen fun row => ?_
      cases row with
      | error e => exact .pure ⟨rfl, readers⟩
      | ok row => exact (ih readers).use fun rows r r' readers => .pure ⟨rfl, readers⟩

theorem runs_drainSets (rowBound n : Nat) (readers : t.Readers r r') :
    t.Runs t.Uses (r.drainSets rowBound n) (r'.drainSets rowBound n) := by
  induction n generalizing r r' with
  | zero => exact .pure ⟨rfl, readers⟩
  | succ n ih =>
    unfold DataReader.drainSets
    refine (runs_drainRows watches answers rowBound readers).use fun rows r r' readers => ?_
    cases rows with
    | error e => exact .pure ⟨rfl, readers⟩
    | ok rows =>
      refine (runs_nextResult watches answers readers .blocking).use fun o r r' readers => ?_
      rcases o with failure | _ | _
      · exact .pure ⟨rfl, readers⟩
      · exact .pure ⟨rfl, readers⟩
      · exact (ih readers).use fun sets r r' readers => .pure ⟨rfl, readers⟩

theorem runs_readerDrain (readers : t.Readers r r') : t.Runs t.Uses r.drain r'.drain := by
  unfold DataReader.drain
  have bound : t.Runs Eq r.remaining r'.remaining := by
    unfold DataReader.remaining
    rw [readers.cursor]
    rcases r.cursor? with _ | c | b
    · exact .pure rfl
    · exact runs_remaining answers c
    · exact .pure rfl
  exact bound.andThen fun n => runs_drainSets watches answers _ _ readers

end Draining

section Releasing

include watches answers

theorem runs_announce (mode : Mode) (readers : t.Readers r r') {b b' : ReaderBinding σ}
    (bindings : t.Bindings b b') (may : t.infos b.info) :
    t.Runs Eq (r.announce mode b) (r'.announce mode b') := by
  unfold DataReader.announce
  rw [bindings.same]
  refine runs_raising _ fun raised asked => ?_
  cases raised with
  | none => exact .pure rfl
  | some l =>
    refine (runs_event watches may).bind fun event event' same => ?_
    obtain ⟨same, allowed⟩ := same
    cases same
    refine (runs_readerRecordsAffected answers readers).andThen fun affected => ?_
    rw [readers.readCount]
    exact runs_readerDisposing watches allowed (bindings.suits l (asked l rfl)) bindings.commands
      mode _

theorem runs_closeCursor (mode : Mode) (cursor : DataCursor) :
    t.Runs Eq (DataReader.closeCursor mode cursor : Engine σ (Outcome Unit))
      (DataReader.closeCursor mode cursor) := by
  cases cursor with
  | native c => exact (tries_close watches answers c mode).seen
  | buffered b => exact .pure rfl

theorem runs_releaseBinding (mode : Mode) {b b' : ReaderBinding σ}
    (same : b' = { b with command := b'.command }) (commands : t.commands b.command b'.command) :
    t.Runs Eq (DataReader.releaseBinding mode b) (DataReader.releaseBinding mode b') := by
  unfold DataReader.releaseBinding
  rw [same]
  refine (runs_closeCursor watches answers mode b.cursor).andThen fun closed => ?_
  refine (runs_cleanUp watches answers commands mode b.info.connection).andThen
    fun cleaned => ?_
  cases closed with
  | error failure => exact (runs_warn watches _ _ rfl cleaned).andThen fun _ => .pure rfl
  | ok _ =>
    cases cleaned with
    | error failure => exact .pure rfl
    | ok _ =>
      refine .get fun s s' meets => ?_
      rw [watches.cancelled meets.scenes]
      exact .pure rfl

variable (ever : ∀ info, t.infos info)
include ever

theorem runs_dispose (mode : Mode) (readers : t.Readers r r') :
    t.Runs t.Uses (r.dispose mode) (r'.dispose mode) := by
  have retired := readers.retired
  unfold DataReader.dispose
  have phases := readers.phase
  rcases phase : r.phase with _ | b | _ <;> rcases phase' : r'.phase with _ | b' | _
  all_goals
    rw [phase, phase'] at phases
    cases phases
  · exact .pure ⟨rfl, readers⟩
  · next bindings =>
    refine (runs_announce watches answers mode readers bindings (ever _)).andThen fun _ => ?_
    exact (runs_releaseBinding watches answers mode bindings.same bindings.commands).andThen
      fun _ => .pure ⟨rfl, retired⟩
  · exact .pure ⟨rfl, readers⟩

theorem runs_drop (readers : t.Readers r r') : t.Runs Eq r.drop r'.drop :=
  (runs_dispose watches answers ever .blocking readers).use fun o r r' _ => by
    cases o with
    | ok _ => exact .pure rfl
    | error failure => exact runs_plainTrace watches rfl

theorem runs_rebind (mode : Mode) (readers : t.Readers r r') {b b' : ReaderBinding σ}
    (bindings : t.Bindings b b') : t.Runs t.Readers (r.rebind mode b) (r'.rebind mode b') :=
  (runs_dispose watches answers ever mode readers).use fun o _ _ _ =>
    (runs_warn watches _ _ rfl o).andThen fun _ => .pure (.ofBinding bindings)

end Releasing

end Tandem

end SqlExecution
