import SqlExecution.Engine.Execution
import SqlExecution.Proofs.Tandem.Basic

/-! Opening, closing and reading in tandem, with a driver that answers both runs alike. -/

namespace SqlExecution

variable {σ α β γ δ : Type}

open Session Trace

namespace Tandem

/-- The driver answers both runs alike, whichever of the commands it is given. -/
structure Answers [Driver σ] (t : Tandem σ) : Prop where
  clear {c c' : NativeCommand} (alike : t.commands c c') : t.commands c.clear c'.clear
  configure {c c' : NativeCommand} (alike : t.commands c c') (text : String) (k : Connection σ) :
    t.commands (c.configure text k) (c'.configure text k)
  isOpen (id : ConnectionId) {x x' : Scene σ} (alike : t.scenes x x') :
    Driver.isOpen id x'.state = Driver.isOpen id x.state
  openConnection (id : ConnectionId) (mode : Mode) :
    Act.Alike t.scenes Eq ((Driver.openConnection id).perform mode)
      ((Driver.openConnection id).perform mode)
  closeConnection (id : ConnectionId) (mode : Mode) :
    Act.Alike t.scenes Eq ((Driver.closeConnection id).perform mode)
      ((Driver.closeConnection id).perform mode)
  createCommand (id : ConnectionId) :
    Act.Alike t.scenes (SameEnd t.commands) (Driver.createCommand id) (Driver.createCommand id)
  executeNonQuery {c c' : NativeCommand} (alike : t.commands c c') (mode : Mode) :
    Act.Alike t.scenes Eq ((Driver.executeNonQuery c).perform mode)
      ((Driver.executeNonQuery c').perform mode)
  executeScalar {c c' : NativeCommand} (alike : t.commands c c') (mode : Mode) :
    Act.Alike t.scenes Eq ((Driver.executeScalar c).perform mode)
      ((Driver.executeScalar c').perform mode)
  executeReader {c c' : NativeCommand} (alike : t.commands c c') (mode : Mode) :
    Act.Alike t.scenes Eq ((Driver.executeReader c).perform mode)
      ((Driver.executeReader c').perform mode)
  dispose {c c' : NativeCommand} (alike : t.commands c c') (mode : Mode) :
    Act.Alike t.scenes Eq ((Driver.dispose c).perform mode) ((Driver.dispose c').perform mode)
  fieldCount (c : Cursor) {x x' : Scene σ} (alike : t.scenes x x') :
    Driver.fieldCount c x'.state = Driver.fieldCount c x.state
  recordsAffected (c : Cursor) {x x' : Scene σ} (alike : t.scenes x x') :
    Driver.recordsAffected c x'.state = Driver.recordsAffected c x.state
  remaining (c : Cursor) {x x' : Scene σ} (alike : t.scenes x x') :
    Driver.remaining c x'.state = Driver.remaining c x.state
  columnName (c : Cursor) (ordinal : Nat) :
    Act.Alike t.scenes Eq (Driver.columnName c ordinal) (Driver.columnName c ordinal)
  read (c : Cursor) (mode : Mode) :
    Act.Alike t.scenes Eq ((Driver.read c).perform mode) ((Driver.read c).perform mode)
  nextResult (c : Cursor) (mode : Mode) :
    Act.Alike t.scenes Eq ((Driver.nextResult c).perform mode) ((Driver.nextResult c).perform mode)
  getValue (c : Cursor) (ordinal : Nat) :
    Act.Alike t.scenes Eq (Driver.getValue c ordinal) (Driver.getValue c ordinal)
  closeCursor (c : Cursor) (mode : Mode) :
    Act.Alike t.scenes Eq ((Driver.closeCursor c).perform mode)
      ((Driver.closeCursor c).perform mode)

theorem answers_of_scenes [Driver σ] {t : Tandem σ} (scenes : t.scenes = Eq)
    (refl : ∀ c, t.commands c c)
    (clear : ∀ {c c'}, t.commands c c' → t.commands c.clear c'.clear)
    (configure : ∀ {c c'}, t.commands c c' → ∀ text (k : Connection σ),
      t.commands (c.configure text k) (c'.configure text k))
    (untold : ∀ {c c'}, t.commands c c' →
      (Driver.executeNonQuery c : Dual σ _) = Driver.executeNonQuery c' ∧
      (Driver.executeScalar c : Dual σ _) = Driver.executeScalar c' ∧
      (Driver.executeReader c : Dual σ _) = Driver.executeReader c' ∧
      (Driver.dispose c : Dual σ _) = Driver.dispose c') : t.Answers := by
  have self : ∀ {α : Type} (a : Act σ α), Act.Alike t.scenes Eq a a := fun a => by
    rw [scenes]
    exact Act.alike_self (fun _ => rfl) a
  have found : ∀ {x x' : Scene σ}, t.scenes x x' → x = x' := fun alike => by
    rwa [scenes] at alike
  exact {
    clear, configure
    isOpen := fun id x x' alike => by rw [found alike]
    openConnection := fun _ _ => self _
    closeConnection := fun _ _ => self _
    createCommand := fun id => by
      rw [scenes]
      exact Act.alike_self (sameEnd_refl refl) _
    executeNonQuery := fun alike mode => by
      rw [(untold alike).1]
      exact self _
    executeScalar := fun alike mode => by
      rw [(untold alike).2.1]
      exact self _
    executeReader := fun alike mode => by
      rw [(untold alike).2.2.1]
      exact self _
    dispose := fun alike mode => by
      rw [(untold alike).2.2.2]
      exact self _
    fieldCount := fun c x x' alike => by rw [found alike]
    recordsAffected := fun c x x' alike => by rw [found alike]
    remaining := fun c x x' alike => by rw [found alike]
    columnName := fun _ _ => self _
    read := fun _ _ => self _
    nextResult := fun _ _ => self _
    getValue := fun _ _ => self _
    closeCursor := fun _ _ => self _ }

theorem answers_of_eq [Driver σ] {t : Tandem σ} (scenes : t.scenes = Eq)
    (commands : t.commands = Eq) :
    t.Answers := by
  have same : ∀ {c c' : NativeCommand}, t.commands c c' → c = c' := fun alike => by
    rwa [commands] at alike
  exact answers_of_scenes scenes (fun c => by rw [commands])
    (fun alike => by rw [commands, same alike]) (fun alike text k => by rw [commands, same alike])
    (fun alike => by simp [same alike])

variable [Driver σ] {t : Tandem σ} (watches : t.Watches) (answers : t.Answers)
include watches answers

section Connections

theorem tries_openNative (mode : Mode) (id : ConnectionId) :
    t.Tries Eq (id.openNative mode) (id.openNative mode) := by
  refine .get fun s s' meets => ?_
  rw [answers.isOpen id meets.scenes]
  refine .ite (fun _ => .pure rfl) fun _ => ?_
  refine (tries_plainTrace watches rfl).andThen fun _ => ?_
  refine (tries_callSame watches (answers.openConnection id mode)).outcomeThen fun o => ?_
  cases o with
  | ok _ => exact (tries_plainTrace watches rfl).andThen fun _ => .pure rfl
  | error failure =>
    cases failure with
    | error e => exact (tries_plainTrace watches rfl).andThen fun _ => .throw _
    | cancelled reason => exact .throw _
    | panicked message => exact .throw _

theorem tries_acquire (mode : Mode) (id : ConnectionId) :
    t.Tries Eq (id.acquire mode) (id.acquire mode) :=
  (tries_openNative watches answers mode id).andThen fun _ =>
    (Tries.lift (runs_modifyConnection watches id _)).andThen fun _ => .pure rfl

theorem tries_release (mode : Mode) (id : ConnectionId) :
    t.Tries Eq (id.release mode) (id.release mode) := by
  refine .get fun s s' meets => ?_
  rw [meets.connections]
  refine (Tries.lift (runs_modifyConnection watches id _)).andThen fun _ => ?_
  refine .ite (fun _ => .pure rfl) fun _ => ?_
  refine (tries_plainTrace watches rfl).andThen fun _ => ?_
  exact (tries_callSame watches (answers.closeConnection id mode)).andThen fun _ => .pure rfl

theorem runs_releaseOutcome (mode : Mode) (id : ConnectionId) :
    t.Runs Eq (id.releaseOutcome mode) (id.releaseOutcome mode) :=
  (tries_release watches answers mode id).seen.andThen fun _ => .pure rfl

end Connections

section Cursors

variable (c : Cursor)

omit watches in
theorem runs_fieldCount : t.Runs Eq (c.fieldCount : Engine σ Nat) c.fieldCount :=
  .get fun _ _ meets => .pure (answers.fieldCount c meets.scenes).symm

omit watches in
theorem runs_recordsAffected : t.Runs Eq (c.recordsAffected : Engine σ Int64) c.recordsAffected :=
  .get fun _ _ meets => .pure (answers.recordsAffected c meets.scenes).symm

omit watches in
theorem runs_remaining : t.Runs Eq (c.remaining : Engine σ Nat) c.remaining :=
  .get fun _ _ meets => .pure (answers.remaining c meets.scenes).symm

theorem runs_columnName (ordinal : Nat) :
    t.Runs Eq (c.columnName ordinal) (c.columnName ordinal) :=
  runs_call watches (answers.columnName c ordinal)

theorem runs_getValue (ordinal : Nat) : t.Runs Eq (c.getValue ordinal) (c.getValue ordinal) :=
  runs_call watches (answers.getValue c ordinal)

theorem tries_read (mode : Mode) : t.Tries Eq (c.read mode) (c.read mode) :=
  tries_callSame watches (answers.read c mode)

theorem tries_nextResult (mode : Mode) : t.Tries Eq (c.nextResult mode) (c.nextResult mode) :=
  tries_callSame watches (answers.nextResult c mode)

theorem tries_close (mode : Mode) : t.Tries Eq (c.close mode) (c.close mode) :=
  tries_callSame watches (answers.closeCursor c mode)

theorem tries_columnNamePlain (ordinal : Nat) :
    t.Tries Eq (Attempt.callPlain (.columnName c ordinal) (Driver.columnName c ordinal))
      (Attempt.callPlain (.columnName c ordinal) (Driver.columnName c ordinal)) :=
  tries_callPlainSame watches (answers.columnName c ordinal)

theorem tries_getValuePlain (ordinal : Nat) :
    t.Tries Eq (Attempt.callPlain (.getValue c ordinal) (Driver.getValue c ordinal))
      (Attempt.callPlain (.getValue c ordinal) (Driver.getValue c ordinal)) :=
  tries_callPlainSame watches (answers.getValue c ordinal)

omit watches answers [Driver σ] in
theorem tries_gather {step step' : Attempt σ (Option α)} (each : t.Tries Eq step step') (n : Nat) :
    t.Tries Eq (Cursor.gather step n) (Cursor.gather step' n) := by
  induction n with
  | zero => exact .throw _
  | succ n ih =>
    refine each.andThen fun found => ?_
    cases found with
    | none => exact .pure rfl
    | some a => exact ih.andThen fun _ => .pure rfl

theorem runs_findColumn (name : String) (ordinals : List Nat) :
    t.Runs Eq (c.findColumn name ordinals) (c.findColumn name ordinals) := by
  induction ordinals with
  | nil => exact .pure rfl
  | cons ordinal rest ih =>
    refine (runs_columnName watches answers c ordinal).andThen fun found => ?_
    cases found with
    | ok n => exact .ite (fun _ => .pure rfl) fun _ => ih
    | error e => exact ih

theorem tries_resolve (total fields place : Nat) (columns : List ReaderColumn) :
    t.Tries Eq (c.resolve total fields place columns) (c.resolve total fields place columns) := by
  induction columns generalizing place with
  | nil => exact .pure rfl
  | cons column rest ih =>
    have more : ∀ ordinal : Nat, t.Tries Eq
        (do return ordinal :: (← c.resolve total fields (place + 1) rest) : Attempt σ (List Nat))
        (do return ordinal :: (← c.resolve total fields (place + 1) rest)) :=
      fun ordinal => (ih (place + 1)).andThen fun _ => .pure rfl
    unfold Cursor.resolve
    cases column.name with
    | some name =>
      refine (Tries.lift (runs_findColumn watches answers c name _)).andThen fun found => ?_
      cases found with
      | some ordinal => exact more ordinal
      | none => exact (Tries.throw (V := Eq) _).andThen more
    | none =>
      dsimp only
      split
      · exact more place
      · exact (Tries.throw (V := Eq) _).andThen more

theorem tries_nameColumns (columns : List (ReaderColumn × Nat)) :
    t.Tries Eq (c.nameColumns columns) (c.nameColumns columns) := by
  induction columns with
  | nil => exact .pure rfl
  | cons entry rest ih =>
    obtain ⟨column, ordinal⟩ := entry
    have more : ∀ name : String, t.Tries Eq
        (do return (column, ordinal, name) :: (← c.nameColumns rest) :
          Attempt σ (List Cursor.Resolved))
        (do return (column, ordinal, name) :: (← c.nameColumns rest)) :=
      fun name => ih.andThen fun _ => .pure rfl
    unfold Cursor.nameColumns
    cases column.name with
    | some name => exact more name
    | none => exact (tries_columnNamePlain watches answers c ordinal).andThen more

theorem tries_checkedRow (detailed : Bool) (columns : List Cursor.Resolved) :
    t.Tries Eq (c.checkedRow detailed columns) (c.checkedRow detailed columns) := by
  induction columns with
  | nil => exact .pure rfl
  | cons entry rest ih =>
    refine (tries_getValuePlain watches answers c entry.2.1).andThen fun v => ?_
    refine (Tries.ofOutcome (V := Eq) (sameEnd_refl (fun _ => rfl) _)).andThen fun _ => ?_
    exact ih.andThen fun _ => .pure rfl

theorem tries_plainRow (ordinals : List Nat) :
    t.Tries Eq (c.plainRow ordinals) (c.plainRow ordinals) := by
  induction ordinals with
  | nil => exact .pure rfl
  | cons ordinal rest ih =>
    exact (tries_getValuePlain watches answers c ordinal).andThen fun _ =>
      ih.andThen fun _ => .pure rfl

theorem tries_plainNames (ordinals : List Nat) :
    t.Tries Eq (c.plainNames ordinals) (c.plainNames ordinals) := by
  induction ordinals with
  | nil => exact .pure rfl
  | cons ordinal rest ih =>
    exact (tries_columnNamePlain watches answers c ordinal).andThen fun _ =>
      ih.andThen fun _ => .pure rfl

theorem tries_rows (mode : Mode) {row : Attempt σ (List Value)} (each : t.Tries Eq row row) :
    t.Tries Eq (c.rows mode row) (c.rows mode row) := by
  refine (Tries.lift (runs_remaining answers c)).andThen fun bound => tries_gather ?_ _
  refine (tries_read watches answers c mode).andThen fun found => .ite (fun _ => ?_) fun _ => ?_
  · exact each.andThen fun _ => .pure rfl
  · exact .pure rfl

theorem tries_firstSet (mode : Mode) (columns : List ReaderColumn) (detailed : Bool) :
    t.Tries Eq (c.firstSet mode columns detailed) (c.firstSet mode columns detailed) := by
  refine (Tries.lift (runs_fieldCount answers c)).andThen fun fields => ?_
  refine (tries_resolve watches answers c _ _ _ _).andThen fun ordinals => ?_
  refine (tries_nameColumns watches answers c _).andThen fun resolved => ?_
  have row := tries_checkedRow watches answers c detailed resolved
  exact (tries_rows watches answers c mode row).andThen fun _ => .pure rfl

theorem tries_laterSet (mode : Mode) : t.Tries Eq (c.laterSet mode) (c.laterSet mode) := by
  refine (tries_nextResult watches answers c mode).andThen fun found =>
    .ite (fun _ => ?_) fun _ => ?_
  · refine (tries_checkpoint watches mode).andThen fun _ => ?_
    refine (Tries.lift (runs_fieldCount answers c)).andThen fun fields => ?_
    refine (tries_plainNames watches answers c _).andThen fun names => ?_
    have row := tries_plainRow watches answers c (List.range fields)
    exact (tries_rows watches answers c mode row).andThen fun _ => .pure rfl
  · exact .pure rfl

theorem tries_drain (mode : Mode) (columns : List ReaderColumn) (detailed : Bool) :
    t.Tries Eq (c.drain mode columns detailed) (c.drain mode columns detailed) := by
  refine (tries_firstSet watches answers c mode columns detailed).andThen fun first => ?_
  refine (Tries.lift (runs_remaining answers c)).andThen fun bound => ?_
  refine (tries_gather (tries_laterSet watches answers c mode) _).andThen fun later => ?_
  exact (tries_plainTrace watches rfl).andThen fun _ => .pure rfl

theorem tries_load (mode : Mode) (columns : List ReaderColumn) (detailed : Bool) :
    t.Tries Eq (c.load mode columns detailed) (c.load mode columns detailed) := by
  refine (tries_drain watches answers c mode columns detailed).outcomeThen fun loaded => ?_
  refine (Tries.lift (runs_recordsAffected answers c)).andThen fun recordsAffected => ?_
  refine (tries_close watches answers c mode).outcomeThen fun closed => ?_
  refine (Tries.ofOutcome (V := Eq) (sameEnd_refl (fun _ => rfl) _)).andThen fun sets => ?_
  refine (Tries.ofOutcome (V := Eq) (sameEnd_refl (fun _ => rfl) _)).andThen fun _ => .pure rfl

end Cursors

end Tandem

end SqlExecution
