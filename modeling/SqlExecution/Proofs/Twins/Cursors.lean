import SqlExecution.Engine.Buffer
import SqlExecution.Proofs.Twins.Matching

/-! Cursors in two runs: they are read alike, and what is loaded into memory is the same. -/

namespace SqlExecution

variable {σ α : Type}

open Session Trace

namespace Cursor

variable {b : Blur} {heeds : Prop}

theorem match_gather {step step' : Attempt σ (Option α)}
    (each : Attempt.Match b heeds id step step') (n : Nat) :
    Attempt.Match b heeds id (gather step n) (gather step' n) := by
  induction n with
  | zero => exact Attempt.match_throw _
  | succ n ih =>
    unfold gather
    refine each.andThen fun found => ?_
    cases found with
    | none => exact .pure rfl
    | some a => exact ih.andThen fun _ => .pure rfl

variable [Driver σ]

theorem match_fieldCount (c : Cursor) :
    Engine.Match b heeds id (c.fieldCount : Engine σ Nat) c.fieldCount :=
  Engine.match_scene fun scene => Driver.fieldCount c scene.state

theorem match_recordsAffected (c : Cursor) :
    Engine.Match b heeds id (c.recordsAffected : Engine σ Int64) c.recordsAffected :=
  Engine.match_scene fun scene => Driver.recordsAffected c scene.state

theorem match_remaining (c : Cursor) :
    Engine.Match b heeds id (c.remaining : Engine σ Nat) c.remaining :=
  Engine.match_scene fun scene => Driver.remaining c scene.state

theorem match_columnName (c : Cursor) (ordinal : Nat) :
    Engine.Match b heeds id (c.columnName ordinal : Engine σ (Result String))
      (c.columnName ordinal) := Engine.match_call rfl rfl

theorem match_getValue (c : Cursor) (ordinal : Nat) :
    Engine.Match b heeds id (c.getValue ordinal : Engine σ (Result Value)) (c.getValue ordinal) :=
  Engine.match_call rfl rfl

theorem match_findColumn (c : Cursor) (name : String) (ordinals : List Nat) :
    Engine.Match b heeds id (c.findColumn name ordinals : Engine σ (Option Nat))
      (c.findColumn name ordinals) := by
  induction ordinals with
  | nil => exact .pure rfl
  | cons ordinal rest ih =>
    unfold findColumn
    refine (c.match_columnName ordinal).andThen fun found => ?_
    cases found with
    | ok n => exact .ite (fun _ => .pure rfl) fun _ => ih
    | error e => exact ih

theorem match_resolve (c : Cursor) (total fields : Nat) (columns : List ReaderColumn)
    (place : Nat) :
    Attempt.Match b heeds id (c.resolve total fields place columns : Attempt σ (List Nat))
      (c.resolve total fields place columns) := by
  induction columns generalizing place with
  | nil => exact .pure rfl
  | cons column rest ih =>
    have more : ∀ ordinal : Nat, Attempt.Match b heeds id
        (do return ordinal :: (← c.resolve total fields (place + 1) rest) : Attempt σ (List Nat))
        (do return ordinal :: (← c.resolve total fields (place + 1) rest)) :=
      fun ordinal => (ih (place + 1)).andThen fun _ => .pure rfl
    unfold resolve
    cases column.name with
    | some name =>
      refine (Attempt.match_lift (c.match_findColumn name _)).andThen fun found => ?_
      cases found with
      | some ordinal => exact more ordinal
      | none => exact Attempt.Match.andThen (Attempt.match_throw _) more
    | none =>
      exact .ite (fun _ => more place) fun _ => Attempt.Match.andThen (Attempt.match_throw _) more

theorem match_nameColumns (c : Cursor) (columns : List (ReaderColumn × Nat)) :
    Attempt.Match b heeds id (c.nameColumns columns : Attempt σ (List Resolved))
      (c.nameColumns columns) := by
  induction columns with
  | nil => exact .pure rfl
  | cons entry rest ih =>
    obtain ⟨column, ordinal⟩ := entry
    have more : ∀ name : String, Attempt.Match b heeds id
        (do return (column, ordinal, name) :: (← c.nameColumns rest) : Attempt σ (List Resolved))
        (do return (column, ordinal, name) :: (← c.nameColumns rest)) :=
      fun name => ih.andThen fun _ => .pure rfl
    unfold nameColumns
    cases column.name with
    | some name => exact more name
    | none => exact (Attempt.match_callPlain _ _).andThen more

theorem match_checkedRow (c : Cursor) (detailed : Bool) (columns : List Resolved) :
    Attempt.Match b heeds id (c.checkedRow detailed columns : Attempt σ (List Value))
      (c.checkedRow detailed columns) := by
  induction columns with
  | nil => exact .pure rfl
  | cons entry rest ih =>
    unfold checkedRow
    refine (Attempt.match_callPlain _ _).andThen fun v => ?_
    exact Attempt.Match.andThen (Attempt.match_ofOutcome rfl) fun _ => ih.andThen fun _ => .pure rfl

theorem match_plainRow (c : Cursor) (ordinals : List Nat) :
    Attempt.Match b heeds id (c.plainRow ordinals : Attempt σ (List Value))
      (c.plainRow ordinals) := by
  induction ordinals with
  | nil => exact .pure rfl
  | cons ordinal rest ih =>
    unfold plainRow
    exact (Attempt.match_callPlain _ _).andThen fun _ => ih.andThen fun _ => .pure rfl

theorem match_plainNames (c : Cursor) (ordinals : List Nat) :
    Attempt.Match b heeds id (c.plainNames ordinals : Attempt σ (List String))
      (c.plainNames ordinals) := by
  induction ordinals with
  | nil => exact .pure rfl
  | cons ordinal rest ih =>
    unfold plainNames
    exact (Attempt.match_callPlain _ _).andThen fun _ => ih.andThen fun _ => .pure rfl

variable (even : b.forms = true → Driver.Even σ) {mode mode' : Mode}
  (forms : b.Forms heeds mode mode') (c : Cursor)
include even forms

theorem match_read : Attempt.Match b heeds id (c.read mode : Attempt σ Bool) (c.read mode') :=
  Attempt.match_call (by simp only [Blur.call, forms.same])
    (forms.perform fun overlooked => (even overlooked).read c)

theorem match_nextResult :
    Attempt.Match b heeds id (c.nextResult mode : Attempt σ Bool) (c.nextResult mode') :=
  Attempt.match_call (by simp only [Blur.call, forms.same])
    (forms.perform fun overlooked => (even overlooked).nextResult c)

theorem match_close : Attempt.Match b heeds id (c.close mode : Attempt σ Unit) (c.close mode') :=
  Attempt.match_call (by simp only [Blur.call, forms.same])
    (forms.perform fun overlooked => (even overlooked).closeCursor c)

theorem match_rows {row : Attempt σ (List Value)} (each : Attempt.Match b heeds id row row) :
    Attempt.Match b heeds id (c.rows mode row) (c.rows mode' row) := by
  refine (Attempt.match_lift c.match_remaining).andThen fun bound => match_gather ?_ _
  refine (match_read even forms c).andThen fun found => ?_
  exact .ite (fun _ => each.andThen fun _ => .pure rfl) fun _ => .pure rfl

theorem match_firstSet (columns : List ReaderColumn) (detailed : Bool) :
    Attempt.Match b heeds id (c.firstSet mode columns detailed : Attempt σ ResultSet)
      (c.firstSet mode' columns detailed) := by
  refine (Attempt.match_lift c.match_fieldCount).andThen fun fields => ?_
  refine (c.match_resolve _ _ _ _).andThen fun ordinals => ?_
  refine (c.match_nameColumns _).andThen fun resolved => ?_
  exact (match_rows even forms c (c.match_checkedRow detailed resolved)).andThen fun _ => .pure rfl

theorem match_laterSet :
    Attempt.Match b heeds id (c.laterSet mode : Attempt σ (Option ResultSet))
      (c.laterSet mode') := by
  refine (match_nextResult even forms c).andThen fun found => .ite (fun _ => ?_) fun _ => .pure rfl
  refine (Attempt.match_checkpoint forms).andThen fun _ => ?_
  refine (Attempt.match_lift c.match_fieldCount).andThen fun fields => ?_
  refine (c.match_plainNames _).andThen fun names => ?_
  exact (match_rows even forms c (c.match_plainRow _)).andThen fun _ => .pure rfl

theorem match_drain (columns : List ReaderColumn) (detailed : Bool) :
    Attempt.Match b heeds id (c.drain mode columns detailed : Attempt σ (List ResultSet))
      (c.drain mode' columns detailed) := by
  refine (match_firstSet even forms c columns detailed).andThen fun first => ?_
  refine (Attempt.match_lift c.match_remaining).andThen fun bound => ?_
  refine (match_gather (match_laterSet even forms c) _).andThen fun later => ?_
  exact (Attempt.match_trace _ _ _ rfl).andThen fun _ => .pure rfl

theorem match_load (columns : List ReaderColumn) (detailed : Bool) :
    Attempt.Match b heeds id (c.load mode columns detailed : Attempt σ BufferedReader)
      (c.load mode' columns detailed) := by
  refine (match_drain even forms c columns detailed).outcomeThen fun loaded => ?_
  refine (Attempt.match_lift c.match_recordsAffected).andThen fun recordsAffected => ?_
  refine (match_close even forms c).outcomeThen fun closed => ?_
  refine Attempt.Match.andThen (Attempt.match_ofOutcome rfl) fun sets => ?_
  exact Attempt.Match.andThen (Attempt.match_ofOutcome rfl) fun _ => .pure rfl

end Cursor

end SqlExecution
