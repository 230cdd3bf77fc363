import SqlExecution.Proofs.StayingOpen
import SqlExecution.Scripted.Basic

/-! The scripted driver opens a connection when it is asked to, and closes it at no other call than
the one that closes it. -/

namespace SqlExecution

variable {α β : Type} {id : ConnectionId}

namespace Script

/-- An action leaves the connection open if it is. -/
def Keeps (id : ConnectionId) (m : Act Script α) : Prop := KeepsOpen id fun s => (m s).2

theorem Keeps.pure (a : α) : Keeps id (pure a : Act Script α) := fun _ opened => opened

theorem Keeps.bind {m : Act Script α} {f : α → Act Script β} (first : Keeps id m)
    (rest : ∀ a, Keeps id (f a)) : Keeps id (m >>= f) := fun s opened => rest _ _ (first s opened)

theorem Keeps.map {m : Act Script α} (f : α → β) (h : Keeps id m) : Keeps id (f <$> m) := h

theorem keeps_get : Keeps id (get : Act Script (Scene Script)) := fun _ opened => opened

theorem keeps_connection (c : ConnectionId) : Keeps id (connection c) := fun _ opened => opened

theorem keeps_cancel (reason : CancelReason) : Keeps id (cancel reason) := fun _ opened => opened

theorem keeps_update {change : Script → Script}
    (kept : ∀ s, (s.connections id).isOpen = true → ((change s).connections id).isOpen = true) :
    Keeps id (update change) := fun s opened => kept s.state opened

theorem keeps_modifyConnection {c : ConnectionId} {change : ScriptedConnection → ScriptedConnection}
    (kept : c = id → ∀ k, k.isOpen = true → (change k).isOpen = true) :
    Keeps id (modifyConnection c change) := by
  refine keeps_update fun s opened => ?_
  by_cases same : id = c
  · subst same
    simp [setConnection, kept rfl _ opened]
  · simp [setConnection, same, opened]

theorem keeps_takeFault (c : ConnectionId) (method : NativeMethod) :
    Keeps id (takeFault c method) := by
  refine (keeps_connection c).bind fun k => ?_
  split
  · exact .pure _
  · next fault rest _ =>
    have used : Keeps id (modifyConnection c fun k =>
        { k with faults := fun m => if m = method then rest else k.faults m }) :=
      keeps_modifyConnection fun _ _ opened => opened
    exact used.bind fun _ => .pure _

theorem keeps_blocking {effect : Act Script (Result α)} (kept : Keeps id effect) (c : ConnectionId)
    (method : NativeMethod) : Keeps id (call c method effect).blocking := by
  refine (keeps_takeFault c method).bind fun fault => ?_
  split
  · exact .pure _
  · exact (keeps_cancel _).bind fun _ => kept
  · exact kept

theorem keeps_call {effect : Act Script (Result α)} (kept : Keeps id effect) (c : ConnectionId)
    (method : NativeMethod) (mode : Mode) : Keeps id ((call c method effect).perform mode) := by
  cases mode with
  | blocking => exact keeps_blocking kept c method
  | async =>
    refine (keeps_takeFault c method).bind fun fault => ?_
    split
    · exact .pure _
    · exact (keeps_cancel _).bind fun _ => kept.bind fun _ => .pure _
    · exact .pure _
    · exact kept.bind fun _ => .pure _

theorem keeps_move (c : Cursor) (step : Walk → Bool × Walk) : Keeps id (move c step) := by
  refine keeps_get.bind fun scene => ?_
  have moved : Keeps id (update fun s => { s with cursors := s.cursors.modify c.handle (fun k =>
      { k with walk := (step (scene.state.cursor c).walk).2 }) }) :=
    keeps_update fun _ opened => opened
  exact moved.bind fun _ => .pure _

theorem keeps_columnName (c : Cursor) (ordinal : Nat) : Keeps id (columnName c ordinal) := by
  refine keeps_get.bind fun scene => ?_
  split
  · exact .pure _
  · exact .pure _

theorem keeps_getValue (c : Cursor) (ordinal : Nat) : Keeps id (getValue c ordinal) := by
  refine keeps_get.bind fun scene => ?_
  split
  · exact .pure _
  · exact .pure _

theorem keeps_setOpen {c : ConnectionId} {isOpen : Bool} (kept : c = id → isOpen = true) :
    Keeps id (setOpen c isOpen) :=
  (keeps_modifyConnection fun same _ _ => kept same).map _

theorem keeps_makeCommand (c : ConnectionId) (tag : Option String) :
    Keeps id (makeCommand c tag) := by
  refine keeps_get.bind fun scene => ?_
  have made : Keeps id (update fun s => { s with commands := scene.state.commands + 1 }) :=
    keeps_update fun _ opened => opened
  exact made.bind fun _ => .pure _

theorem keeps_makeTransaction (c : ConnectionId) (isolation : IsolationLevel) :
    Keeps id (makeTransaction c isolation) := by
  refine keeps_get.bind fun scene => ?_
  have made : Keeps id (update fun s => { s with transactions := scene.state.transactions + 1 }) :=
    keeps_update fun _ opened => opened
  exact made.bind fun _ => .pure _

theorem keeps_makeCursor (c : ConnectionId) (sets : List ResultSet) (recordsAffected : Int64) :
    Keeps id (makeCursor c sets recordsAffected) := by
  refine keeps_get.bind fun scene => ?_
  have made : Keeps id (update fun s =>
      { s with cursors := s.cursors ++ [⟨{ sets }, recordsAffected⟩] }) :=
    keeps_update fun _ opened => opened
  exact made.bind fun _ => .pure _

theorem isOpen_setOpen (id : ConnectionId) (s : Scene Script) :
    Driver.isOpen id (setOpen id true s).2.state = true := by
  change ((s.state.setConnection id { s.state.connections id with isOpen := true }).connections
    id).isOpen = true
  simp [setConnection]

theorem isOpen_of_opened (mode : Mode) (s : Scene Script)
    (opens : ((Driver.openConnection id).perform mode s).1 = .ok ()) :
    Driver.isOpen id ((Driver.openConnection id).perform mode s).2.state = true := by
  -- A call that succeeds had its effect, whatever its fault was.
  rcases taken : takeFault id .openConnection s with ⟨fault, t⟩
  have asked : ∀ {β : Type} (f : Option Fault → Act Script β),
      (takeFault id .openConnection >>= f) s = f fault t := by
    intro β f
    change f (takeFault id .openConnection s).1 (takeFault id .openConnection s).2 = _
    rw [taken]
  cases mode with
  | blocking =>
    have run : (call id .openConnection (setOpen id true)).blocking s = _ := asked _
    change Outcome.ofResult ((call id .openConnection (setOpen id true)).blocking s).1 = _ at opens
    change Driver.isOpen id ((call id .openConnection (setOpen id true)).blocking s).2.state = true
    rw [run] at opens ⊢
    rcases fault with _ | e | reason | failure
    · exact isOpen_setOpen id t
    · cases opens
    · exact isOpen_setOpen id _
    · exact isOpen_setOpen id t
  | async =>
    have run : (call id .openConnection (setOpen id true)).async s = _ := asked _
    change ((call id .openConnection (setOpen id true)).async s).1 = _ at opens
    change Driver.isOpen id ((call id .openConnection (setOpen id true)).async s).2.state = true
    rw [run] at opens ⊢
    rcases fault with _ | e | reason | failure
    · exact isOpen_setOpen id t
    · cases opens
    · exact isOpen_setOpen id _
    · cases opens

theorem steady (id : ConnectionId) : Driver.Steady Script id := by
  refine ⟨isOpen_of_opened, fun call other => ?_⟩
  cases call with
  | openConnection c mode => exact keeps_call (keeps_setOpen fun _ => rfl) _ _ mode
  | closeConnection c mode =>
    refine keeps_call (keeps_setOpen fun same => ?_) _ _ mode
    subst same
    exact (other mode rfl).elim
  | createCommand c =>
    exact keeps_blocking ((keeps_makeCommand c none).map _) c .createCommand
  | begin c mode isolation => exact keeps_call ((keeps_makeTransaction c isolation).map _) _ _ mode
  | commit t mode => exact keeps_call (.pure _) _ _ mode
  | rollback t mode => exact keeps_call (.pure _) _ _ mode
  | execute method c mode =>
    cases method with
    | nonQuery => exact keeps_call ((keeps_connection _).bind fun _ => .pure _) _ _ mode
    | scalar => exact keeps_call ((keeps_connection _).bind fun _ => .pure _) _ _ mode
    | reader =>
      exact keeps_call ((keeps_connection _).bind fun settings =>
        (keeps_makeCursor _ _ _).bind fun _ => .pure _) _ _ mode
  | clearParameters c => exact fun _ opened => opened
  | dispose c mode =>
    have disposes : Keeps id (call c.connection .dispose (return .ok ())).blocking :=
      keeps_blocking (.pure _) _ _
    have either : Keeps id ((Driver.dispose c : Dual Script Unit).perform mode) := by
      change Keeps id ((Dual.ofBlocking _).perform mode)
      rw [Dual.perform_ofBlocking]
      exact disposes
    exact either
  | columnName c ordinal => exact keeps_blocking (keeps_columnName c ordinal) _ _
  | read c mode => exact keeps_call (keeps_move c _) _ _ mode
  | nextResult c mode => exact keeps_call (keeps_move c _) _ _ mode
  | getValue c ordinal => exact keeps_blocking (keeps_getValue c ordinal) _ _
  | closeCursor c mode => exact keeps_call (.pure _) _ _ mode

end Script

end SqlExecution
