import SqlExecution.Proofs.Reading
import SqlExecution.Scripted.Basic

/-! The cursors of the scripted driver. As long as no fault is scripted for reading, a cursor presents
the result sets that it was made with. -/

namespace SqlExecution

variable {α β : Type}

namespace Script

/-- The methods that read from a cursor or move it. -/
def readingMethods : List NativeMethod := [.read, .nextResult, .getValue, .columnName]

/-- The cursor is at the walk, and reading from it does not go wrong. -/
structure Shows (c : Cursor) (recordsAffected : Int64) (w : Walk) (scene : Scene Script) : Prop where
  cursor : scene.state.cursors[c.handle]? = some ⟨w, recordsAffected⟩
  faultless : ∀ method ∈ readingMethods,
    (scene.state.connections c.connection).faults method = []

variable {id : ConnectionId} {method : NativeMethod} {scene : Scene Script}

theorem act_bind_apply (m : Act Script α) (f : α → Act Script β) (scene : Scene Script) :
    (m >>= f) scene = f (m scene).1 (m scene).2 := rfl

theorem takeFault_apply (faultless : (scene.state.connections id).faults method = []) :
    takeFault id method scene = (none, scene) := by
  have settings : connection id scene = (scene.state.connections id, scene) := rfl
  unfold takeFault
  rw [act_bind_apply, settings, faultless]
  rfl

theorem blocking_apply (faultless : (scene.state.connections id).faults method = [])
    (effect : Act Script (Result α)) : (call id method effect).blocking scene = effect scene := by
  unfold call
  dsimp only
  rw [act_bind_apply, takeFault_apply faultless]

theorem perform_apply (faultless : (scene.state.connections id).faults method = []) (mode : Mode)
    (effect : Act Script (Result α)) :
    (call id method effect).perform mode scene =
      (.ofResult (effect scene).1, (effect scene).2) := by
  cases mode with
  | blocking =>
    unfold Dual.perform
    dsimp only
    rw [blocking_apply faultless]
    rfl
  | async =>
    unfold Dual.perform call
    dsimp only
    rw [act_bind_apply, takeFault_apply faultless]
    rfl

variable {c : Cursor} {recordsAffected : Int64} {w : Walk}

theorem Shows.cursor_eq (shows : Shows c recordsAffected w scene) :
    scene.state.cursor c = ⟨w, recordsAffected⟩ := by
  rw [Script.cursor, shows.cursor, Option.getD_some]

theorem Shows.move (shows : Shows c recordsAffected w scene) (step : Walk → Bool × Walk) :
    ∃ after, Script.move c step scene = (.ok (step w).1, after) ∧
      Shows c recordsAffected (step w).2 after ∧ after.cancelled = scene.cancelled ∧
      after.state.connections = scene.state.connections := by
  refine ⟨(Script.move c step scene).2, ?_, ⟨?_, shows.faultless⟩, rfl, rfl⟩
  · have gives : (Script.move c step scene).1 = .ok (step (scene.state.cursor c).walk).1 := rfl
    rw [shows.cursor_eq] at gives
    exact Prod.ext gives rfl
  · change (scene.state.cursors.modify c.handle fun k =>
      { k with walk := (step (scene.state.cursor c).walk).2 })[c.handle]? = _
    rw [shows.cursor_eq, List.getElem?_modify_eq, shows.cursor]
    rfl

theorem presents_keeping (c : Cursor) (mode : Mode) (recordsAffected : Int64)
    {kept : Walk → Scene Script → Prop}
    (keeps : ∀ {w w' scene scene'}, w'.sets = w.sets → scene'.cancelled = scene.cancelled →
      scene'.state.connections = scene.state.connections → kept w scene → kept w' scene') :
    c.Presents mode (fun _ => recordsAffected)
      fun w scene => Shows c recordsAffected w scene ∧ kept w scene where
  fieldCount shows := congrArg (·.walk.fieldCount) shows.1.cursor_eq
  recordsAffected shows := congrArg (·.recordsAffected) shows.1.cursor_eq
  columnName := by
    rintro w scene ordinal name ⟨shows, held⟩ named
    have looked : (get : Act Script (Scene Script)) scene = (scene, scene) := rfl
    have tells : Script.columnName c ordinal scene = (.ok name, scene) := by
      unfold Script.columnName
      rw [act_bind_apply, looked, shows.cursor_eq, named]
      rfl
    have called := blocking_apply (shows.faultless .columnName (by simp [readingMethods]))
      (Script.columnName c ordinal)
    exact ⟨scene, called.trans tells, shows, held⟩
  getValue := by
    rintro w scene ordinal row v ⟨shows, held⟩ current there
    have looked : (get : Act Script (Scene Script)) scene = (scene, scene) := rfl
    have gives : Script.getValue c ordinal scene = (.ok v, scene) := by
      unfold Script.getValue
      rw [act_bind_apply, looked, shows.cursor_eq, current, Option.bind_some, there]
      rfl
    have called := blocking_apply (shows.faultless .getValue (by simp [readingMethods]))
      (Script.getValue c ordinal)
    exact ⟨scene, called.trans gives, shows, held⟩
  read := by
    rintro w scene ⟨shows, held⟩
    obtain ⟨after, moves, shows', cancelled, connections⟩ := shows.move Walk.read
    have called := perform_apply (shows.faultless .read (by simp [readingMethods])) mode
      (Script.move c Walk.read)
    rw [moves] at called
    exact ⟨after, called, shows', keeps (Walk.sets_read w) cancelled connections held⟩
  nextResult := by
    rintro w scene ⟨shows, held⟩
    obtain ⟨after, moves, shows', cancelled, connections⟩ := shows.move Walk.nextResult
    have called := perform_apply (shows.faultless .nextResult (by simp [readingMethods])) mode
      (Script.move c Walk.nextResult)
    rw [moves] at called
    exact ⟨after, called, shows', keeps (Walk.sets_nextResult w) cancelled connections held⟩

theorem presents (c : Cursor) (mode : Mode) (recordsAffected : Int64) :
    c.Presents mode (fun _ => recordsAffected) (Shows c recordsAffected) := by
  have alone : c.Presents mode (fun _ => recordsAffected) fun w scene =>
      Shows c recordsAffected w scene ∧ True :=
    presents_keeping c mode recordsAffected fun _ _ _ _ => trivial
  simpa only [and_true] using alone

end Script

end SqlExecution
