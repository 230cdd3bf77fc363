import SqlExecution.Engine.Buffer
import SqlExecution.Proofs.Laws.Basic

/-! Draining a cursor into memory obeys a law under which it may be read from, and loading it one
under which it may be closed too. -/

namespace SqlExecution

variable {σ α : Type}

open Session

/-- The cursor that a call reads from or moves along. -/
def NativeCall.readsFrom? : NativeCall → Option Cursor
  | columnName c _ => some c
  | read c _ => some c
  | nextResult c _ => some c
  | getValue c _ => some c
  | _ => none

namespace Cursor

def Reads (c : Cursor) (call : NativeCall) : Prop := call.readsFrom? = some c

theorem reads_columnName (c : Cursor) (ordinal : Nat) : c.Reads (.columnName c ordinal) := rfl

theorem reads_getValue (c : Cursor) (ordinal : Nat) : c.Reads (.getValue c ordinal) := rfl

theorem reads_read (c : Cursor) (mode : Mode) : c.Reads (.read c mode) := rfl

theorem reads_nextResult (c : Cursor) (mode : Mode) : c.Reads (.nextResult c mode) := rfl

variable {R : Session σ → Session σ → Prop} [ReportingLaw R]

theorem obeys_gather {step : Attempt σ (Option α)} (each : Attempt.Obeys R step) (n : Nat) :
    Attempt.Obeys R (gather step n) := by
  induction n with
  | zero => exact Attempt.obeys_throw _
  | succ n ih =>
    unfold gather
    refine each.bind fun found => ?_
    cases found with
    | none => exact .pure _
    | some a => exact ih.bind fun _ => .pure _

variable [Driver σ]

theorem obeys_fieldCount (c : Cursor) : Engine.Obeys R (c.fieldCount : Engine σ Nat) :=
  Engine.obeys_get.bind fun _ => .pure _

theorem obeys_recordsAffected (c : Cursor) : Engine.Obeys R (c.recordsAffected : Engine σ Int64) :=
  Engine.obeys_get.bind fun _ => .pure _

theorem obeys_remaining (c : Cursor) : Engine.Obeys R (c.remaining : Engine σ Nat) :=
  Engine.obeys_get.bind fun _ => .pure _

variable {c : Cursor}

theorem obeys_close {mode : Mode} (allows : Allows R (.closeCursor c mode)) :
    Attempt.Obeys R (c.close mode) := Attempt.obeys_call allows fun _ => rfl

section

variable (tells : ∀ ordinal, Allows R (.columnName c ordinal))
include tells

theorem obeys_columnName (ordinal : Nat) : Engine.Obeys R (c.columnName ordinal) :=
  Engine.obeys_call (tells ordinal) fun _ => rfl

theorem obeys_findColumn (name : String) (ordinals : List Nat) :
    Engine.Obeys R (c.findColumn name ordinals) := by
  induction ordinals with
  | nil => exact .pure _
  | cons ordinal rest ih =>
    unfold findColumn
    refine (obeys_columnName tells ordinal).bind fun found => ?_
    cases found with
    | ok n =>
      dsimp only
      split
      · exact .pure _
      · exact ih
    | error e => exact ih

theorem obeys_resolve (total fields : Nat) (columns : List ReaderColumn) (place : Nat) :
    Attempt.Obeys R (c.resolve total fields place columns) := by
  induction columns generalizing place with
  | nil => exact .pure _
  | cons column rest ih =>
    have more : ∀ ordinal : Nat, Attempt.Obeys R (do
        return ordinal :: (← c.resolve total fields (place + 1) rest) : Attempt σ (List Nat)) :=
      fun ordinal => (ih (place + 1)).bind fun _ => .pure _
    unfold resolve
    cases column.name with
    | some name =>
      refine (Attempt.obeys_lift (obeys_findColumn tells name _)).bind fun found => ?_
      cases found with
      | some ordinal => exact more ordinal
      | none => exact (Attempt.obeys_throw _).bind more
    | none =>
      dsimp only
      split
      · exact more place
      · exact (Attempt.obeys_throw _).bind more

end

variable (reads : ∀ call, c.Reads call → Allows R call)
include reads

theorem obeys_getValue (ordinal : Nat) : Engine.Obeys R (c.getValue ordinal) :=
  Engine.obeys_call (reads _ (c.reads_getValue ordinal)) fun _ => rfl

theorem obeys_read (mode : Mode) : Attempt.Obeys R (c.read mode) :=
  Attempt.obeys_call (reads _ (c.reads_read mode)) fun _ => rfl

theorem obeys_nextResult (mode : Mode) : Attempt.Obeys R (c.nextResult mode) :=
  Attempt.obeys_call (reads _ (c.reads_nextResult mode)) fun _ => rfl

theorem obeys_columnNamePlain (ordinal : Nat) :
    Attempt.Obeys R (Attempt.callPlain (.columnName c ordinal) (Driver.columnName c ordinal)) :=
  Attempt.obeys_callPlain (reads _ (c.reads_columnName ordinal)) fun _ => rfl

theorem obeys_getValuePlain (ordinal : Nat) :
    Attempt.Obeys R (Attempt.callPlain (.getValue c ordinal) (Driver.getValue c ordinal)) :=
  Attempt.obeys_callPlain (reads _ (c.reads_getValue ordinal)) fun _ => rfl

theorem obeys_nameColumns (columns : List (ReaderColumn × Nat)) :
    Attempt.Obeys R (c.nameColumns columns) := by
  induction columns with
  | nil => exact .pure _
  | cons entry rest ih =>
    obtain ⟨column, ordinal⟩ := entry
    have more : ∀ name : String, Attempt.Obeys R (do
        return (column, ordinal, name) :: (← c.nameColumns rest) : Attempt σ (List Resolved)) :=
      fun name => ih.bind fun _ => .pure _
    unfold nameColumns
    cases column.name with
    | some name => exact more name
    | none => exact (obeys_columnNamePlain reads ordinal).bind more

theorem obeys_checkedRow (detailed : Bool) (columns : List Resolved) :
    Attempt.Obeys R (c.checkedRow detailed columns) := by
  induction columns with
  | nil => exact .pure _
  | cons entry rest ih =>
    unfold checkedRow
    refine (obeys_getValuePlain reads entry.2.1).bind fun v => ?_
    exact (Attempt.obeys_ofOutcome _).bind fun _ => ih.bind fun _ => .pure _

theorem obeys_plainRow (ordinals : List Nat) : Attempt.Obeys R (c.plainRow ordinals) := by
  induction ordinals with
  | nil => exact .pure _
  | cons ordinal rest ih =>
    unfold plainRow
    exact (obeys_getValuePlain reads ordinal).bind fun _ => ih.bind fun _ => .pure _

theorem obeys_plainNames (ordinals : List Nat) : Attempt.Obeys R (c.plainNames ordinals) := by
  induction ordinals with
  | nil => exact .pure _
  | cons ordinal rest ih =>
    unfold plainNames
    exact (obeys_columnNamePlain reads ordinal).bind fun _ => ih.bind fun _ => .pure _

theorem obeys_rows (mode : Mode) {row : Attempt σ (List Value)} (each : Attempt.Obeys R row) :
    Attempt.Obeys R (c.rows mode row) := by
  refine (Attempt.obeys_lift c.obeys_remaining).bind fun bound => obeys_gather ?_ _
  refine (obeys_read reads mode).bind fun found => ?_
  split
  · exact each.bind fun _ => .pure _
  · exact .pure _

theorem obeys_firstSet (mode : Mode) (columns : List ReaderColumn) (detailed : Bool) :
    Attempt.Obeys R (c.firstSet mode columns detailed) := by
  refine (Attempt.obeys_lift c.obeys_fieldCount).bind fun fields => ?_
  have tells : ∀ ordinal, Allows R (.columnName c ordinal) := fun ordinal =>
    reads _ (c.reads_columnName ordinal)
  refine (obeys_resolve tells _ _ _ _).bind fun ordinals => ?_
  refine (obeys_nameColumns reads _).bind fun resolved => ?_
  have row := obeys_checkedRow reads detailed resolved
  exact (obeys_rows reads mode row).bind fun _ => .pure _

theorem obeys_laterSet (mode : Mode) : Attempt.Obeys R (c.laterSet mode) := by
  refine (obeys_nextResult reads mode).bind fun found => ?_
  split
  · refine (Attempt.obeys_checkpoint mode).bind fun _ => ?_
    refine (Attempt.obeys_lift c.obeys_fieldCount).bind fun fields => ?_
    refine (obeys_plainNames reads _).bind fun names => ?_
    exact (obeys_rows reads mode (obeys_plainRow reads _)).bind fun _ => .pure _
  · exact .pure _

theorem obeys_drain (mode : Mode) (columns : List ReaderColumn) (detailed : Bool) :
    Attempt.Obeys R (c.drain mode columns detailed) := by
  refine (obeys_firstSet reads mode columns detailed).bind fun first => ?_
  refine (Attempt.obeys_lift c.obeys_remaining).bind fun bound => ?_
  refine (obeys_gather (obeys_laterSet reads mode) _).bind fun later => ?_
  exact (Attempt.obeys_remark _ _ _ _).bind fun _ => .pure _

theorem obeys_load {mode : Mode} (closes : Allows R (.closeCursor c mode))
    (columns : List ReaderColumn) (detailed : Bool) :
    Attempt.Obeys R (c.load mode columns detailed) := by
  refine (Attempt.obeys_outcome (obeys_drain reads mode columns detailed)).bind fun loaded => ?_
  refine (Attempt.obeys_lift c.obeys_recordsAffected).bind fun recordsAffected => ?_
  refine (Attempt.obeys_outcome (obeys_close closes)).bind fun closed => ?_
  refine (Attempt.obeys_ofOutcome loaded).bind fun sets => ?_
  exact (Attempt.obeys_ofOutcome closed).bind fun _ => .pure _

end Cursor

end SqlExecution
