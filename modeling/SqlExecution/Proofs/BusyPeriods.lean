import SqlExecution.Program
import SqlExecution.Proofs.Opens
import SqlExecution.Scripted.Basic

/-! One connection over time. It is opened and closed through the engine, and natively past it; it
is busy while opens are left to be given back. The engine closes the native connection at the end of
a busy period in which it opened it, and never otherwise. -/

namespace SqlExecution

variable {σ : Type} [Driver σ]

/-- What happens to a connection: opens and closes through the engine, and native ones past it. -/
inductive Visit where
  | take (mode : Mode)
  | give (mode : Mode)
  | openNative (mode : Mode)
  | closeNative (mode : Mode)
  deriving DecidableEq, Repr

namespace Visit

def operation (id : ConnectionId) : Visit → Operation σ
  | take mode => .openConnection id mode
  | give mode => .closeConnection id mode
  | openNative mode => .openNative id mode
  | closeNative mode => .closeNative id mode

def after (id : ConnectionId) (w : Workspace σ) (visits : List Visit) (i : Nat) : Workspace σ :=
  (Program.run ((visits.take i).map (operation id)) w).2

def count (id : ConnectionId) (w : Workspace σ) (visits : List Visit) (i : Nat) : Nat :=
  (after id w visits i).session.openCount id

/-- The visit is an open that opens the native connection. -/
def OpensAt (id : ConnectionId) (w : Workspace σ) (visits : List Visit) (i : Nat) : Prop :=
  ∃ mode, visits[i]? = some (take mode) ∧ id.OpensNatively mode (after id w visits i).session

/-- The visit is a close that calls the native close. -/
def ClosesAt (id : ConnectionId) (w : Workspace σ) (visits : List Visit) (i : Nat) : Prop :=
  ∃ mode, visits[i]? = some (give mode) ∧
    (after id w visits (i + 1)).session.calls =
      (after id w visits i).session.calls ++ [.closeConnection id mode]

/-- Some visit since the count was last zero opened the native connection. -/
def OpenedSinceIdle (id : ConnectionId) (w : Workspace σ) (visits : List Visit) (i : Nat) : Prop :=
  ∃ j < i, OpensAt id w visits j ∧ ∀ k, j < k → k ≤ i → 0 < count id w visits k

variable {id : ConnectionId} {w : Workspace σ} {visits : List Visit} {i : Nat}

theorem after_succ {v : Visit} (visit : visits[i]? = some v) :
    after id w visits (i + 1) = ((v.operation id).perform (after id w visits i)).2 := by
  unfold after
  rw [List.take_add_one, visit]
  simp [Program.run_append, Program.run_cons]

theorem after_succ_of_none (ended : visits[i]? = none) :
    after id w visits (i + 1) = after id w visits i := by
  unfold after
  rw [List.take_add_one, ended]
  simp

theorem openedSinceIdle_succ :
    OpenedSinceIdle id w visits (i + 1) ↔
      0 < count id w visits (i + 1) ∧ (OpensAt id w visits i ∨ OpenedSinceIdle id w visits i) := by
  constructor
  · rintro ⟨j, early, opens, busy⟩
    refine ⟨busy (i + 1) early (Nat.le_refl _), ?_⟩
    rcases Nat.lt_succ_iff_lt_or_eq.1 early with before | rfl
    · exact .inr ⟨j, before, opens, fun k later _ => busy k later (by omega)⟩
    · exact .inl opens
  · rintro ⟨busy, opens | ⟨j, early, opens, busy'⟩⟩
    · exact ⟨i, by omega, opens, fun k later bound => by rwa [show k = i + 1 by omega]⟩
    · refine ⟨j, by omega, opens, fun k later bound => ?_⟩
      rcases Nat.lt_succ_iff_lt_or_eq.1 (Nat.lt_succ_of_le bound) with before | rfl
      · exact busy' k later (by omega)
      · exact busy

theorem perform_take (mode : Mode) (id : ConnectionId) (w : Workspace σ) :
    (operation id (take mode)).perform w =
      (.flag ((id.acquire mode).observe w.session).1,
        { w with session := ((id.acquire mode).observe w.session).2 }) := rfl

theorem perform_give (mode : Mode) (id : ConnectionId) (w : Workspace σ) :
    (operation id (give mode)).perform w =
      (.flag ((id.release mode).observe w.session).1,
        { w with session := ((id.release mode).observe w.session).2 }) := rfl

def state (id : ConnectionId) (w : Workspace σ) (visits : List Visit) (i : Nat) : Connection σ :=
  (after id w visits i).session.connections id

theorem count_eq : count id w visits i = (state id w visits i).openCount := rfl

theorem opensAt_take {mode : Mode} (visit : visits[i]? = some (take mode)) :
    OpensAt id w visits i ↔
      ((id.acquire mode).observe (after id w visits i).session).1 = .ok true := by
  simp [OpensAt, visit, ConnectionId.acquire_eq_true_iff]

theorem not_opensAt (other : ∀ mode, visits[i]? ≠ some (take mode)) : ¬ OpensAt id w visits i := by
  rintro ⟨mode, visit, _⟩
  exact other mode visit

theorem state_take_ok {mode : Mode} {opened : Bool} (visit : visits[i]? = some (take mode))
    (ends : ((id.acquire mode).observe (after id w visits i).session).1 = .ok opened) :
    state id w visits (i + 1) = (state id w visits i).acquired opened := by
  simp [state, after_succ visit, perform_take, ConnectionId.acquire_ok ends, Session.taken]

theorem state_take_error {mode : Mode} {failure : Failure} (visit : visits[i]? = some (take mode))
    (ends : ((id.acquire mode).observe (after id w visits i).session).1 = .error failure) :
    state id w visits (i + 1) = state id w visits i := by
  simp [state, after_succ visit, perform_take, ConnectionId.acquire_error ends]

theorem state_give {mode : Mode} (visit : visits[i]? = some (give mode)) :
    state id w visits (i + 1) = (state id w visits i).released.1 := by
  simp [state, after_succ visit, perform_give, (ConnectionId.release_apply _ _ _).1, Session.given]

theorem state_past (other : ∀ mode, visits[i]? ≠ some (take mode) ∧ visits[i]? ≠ some (give mode)) :
    state id w visits (i + 1) = state id w visits i := by
  unfold state
  cases visit : visits[i]? with
  | none => rw [after_succ_of_none visit]
  | some v =>
    rw [after_succ visit]
    cases v with
    | take mode => exact absurd visit (other mode).1
    | give mode => exact absurd visit (other mode).2
    | openNative mode => rfl
    | closeNative mode => rfl

theorem openedHere_succ
    (sound : (state id w visits i).openedHere = true → 0 < count id w visits i) :
    (state id w visits (i + 1)).openedHere = true ↔
      0 < count id w visits (i + 1) ∧
        (OpensAt id w visits i ∨ (state id w visits i).openedHere = true) := by
  rw [count_eq] at sound ⊢
  rcases visit : visits[i]? with _ | ⟨mode⟩ | ⟨mode⟩ | _ | _
  case some.take =>
    rw [opensAt_take visit]
    cases ends : ((id.acquire mode).observe (after id w visits i).session).1 with
    | ok opened => simp [state_take_ok visit ends, or_comm]
    | error failure =>
      rw [state_take_error visit ends]
      simpa using sound
  case some.give =>
    have shut : ¬ OpensAt id w visits i := not_opensAt (by simp [visit])
    simp [state_give visit, Connection.openedHere_released, shut, and_comm]
  all_goals
    have shut : ¬ OpensAt id w visits i := not_opensAt (by simp [visit])
    rw [state_past (by simp [visit])]
    simpa [shut] using sound

theorem openedHere_iff (idle : (w.session.connections id).Idle) (visits : List Visit) (i : Nat) :
    (state id w visits i).openedHere = true ↔ OpenedSinceIdle id w visits i := by
  induction i with
  | zero =>
    have start : state id w visits 0 = w.session.connections id := rfl
    simp [start, idle.openedHere, OpenedSinceIdle]
  | succ i ih =>
    -- The engine drops what it remembers with the last open, so it remembers it only while busy.
    have sound : (state id w visits i).openedHere = true → 0 < count id w visits i := by
      rw [ih]
      rintro ⟨j, early, _, busy⟩
      exact busy i early (Nat.le_refl i)
    rw [openedHere_succ sound, openedSinceIdle_succ, ih]

theorem take_calls {mode : Mode} (visit : visits[i]? = some (take mode)) :
    (after id w visits (i + 1)).session.calls =
      (after id w visits i).session.calls ++ id.openCalls mode (after id w visits i).session := by
  simp [after_succ visit, perform_take, ConnectionId.acquire_calls]

theorem give_calls {mode : Mode} (visit : visits[i]? = some (give mode)) :
    (after id w visits (i + 1)).session.calls =
      (after id w visits i).session.calls ++ id.closeCalls mode (after id w visits i).session := by
  simp [after_succ visit, perform_give, (ConnectionId.release_apply _ _ _).2]

theorem closesAt_iff (idle : (w.session.connections id).Idle) {mode : Mode}
    (visit : visits[i]? = some (give mode)) :
    ClosesAt id w visits i ↔ count id w visits i = 1 ∧ OpenedSinceIdle id w visits i := by
  have closes : ClosesAt id w visits i ↔ (state id w visits i).released.2 = true := by
    simp [ClosesAt, visit, give_calls visit, ConnectionId.closeCalls, state]
  rw [closes, Connection.closes_released, ← count_eq, openedHere_iff idle]
  constructor
  · rintro ⟨last, j, early, opens, busy⟩
    have held := busy i early (Nat.le_refl i)
    exact ⟨by omega, j, early, opens, busy⟩
  · rintro ⟨last, opened⟩
    exact ⟨by omega, opened⟩

theorem not_closesAt {mode : Mode} (visit : visits[i]? = some (give mode))
    (shut : ¬ ClosesAt id w visits i) :
    (after id w visits (i + 1)).session.calls = (after id w visits i).session.calls := by
  have quiet : (state id w visits i).released.2 = false := by
    simpa [ClosesAt, visit, give_calls visit, ConnectionId.closeCalls, state] using shut
  change ((after id w visits i).session.connections id).released.2 = false at quiet
  simp [give_calls visit, ConnectionId.closeCalls, quiet]

/-- Between two native closes by the engine the count was zero and then a visit opened the native
connection again, whatever the first of them came to. -/
theorem reopened_between (idle : (w.session.connections id).Idle) {k : Nat} (later : i < k)
    (first : ClosesAt id w visits i) (second : ClosesAt id w visits k) :
    count id w visits (i + 1) = 0 ∧ ∃ j, i < j ∧ j < k ∧ OpensAt id w visits j := by
  have ⟨mode, visit, _⟩ := first
  have ⟨mode', visit', _⟩ := second
  have last := ((closesAt_iff idle visit).1 first).1
  have idleAgain : count id w visits (i + 1) = 0 := by
    rw [count_eq] at last
    simp [count_eq, state_give visit, last]
  obtain ⟨-, j, early, opens, busy⟩ := (closesAt_iff idle visit').1 second
  -- Had it been opened before the first close, the count would not have been zero since.
  refine ⟨idleAgain, j, Nat.lt_of_not_le fun before => ?_, early, opens⟩
  have held := busy (i + 1) (by omega) later
  omega

/-- Opens and closes are counted whatever the driver answers, and of all visits only a close that
gives back the last open of a busy period in which the engine opened the native connection calls the
native close, once. -/
theorem native_close_iff_last_of_opened (id : ConnectionId) (w : Workspace σ)
    (idle : (w.session.connections id).Idle) (visits : List Visit) (i : Nat) :
    (∀ mode, visits[i]? = some (take mode) → ∃ o : Outcome Bool,
      ((operation id (take mode)).perform (after id w visits i)).1 = .flag o ∧
      (∀ opened, o = .ok opened → count id w visits (i + 1) = count id w visits i + 1) ∧
      (∀ failure, o = .error failure → count id w visits (i + 1) = count id w visits i) ∧
      (after id w visits (i + 1)).session.calls =
        (after id w visits i).session.calls ++ id.openCalls mode (after id w visits i).session) ∧
    (∀ mode, visits[i]? = some (give mode) →
      count id w visits (i + 1) = count id w visits i - 1 ∧
      (ClosesAt id w visits i ↔ count id w visits i = 1 ∧ OpenedSinceIdle id w visits i) ∧
      (¬ ClosesAt id w visits i →
        (after id w visits (i + 1)).session.calls = (after id w visits i).session.calls)) ∧
    (∀ mode, visits[i]? = some (openNative mode) ∨ visits[i]? = some (closeNative mode) →
      count id w visits (i + 1) = count id w visits i) ∧
    (∀ k, i < k → ClosesAt id w visits i → ClosesAt id w visits k →
      count id w visits (i + 1) = 0 ∧ ∃ j, i < j ∧ j < k ∧ OpensAt id w visits j) := by
  refine ⟨fun mode visit => ?_, fun mode visit => ⟨?_, closesAt_iff idle visit, not_closesAt visit⟩,
    fun mode visit => ?_, fun k later => reopened_between idle later⟩
  · refine ⟨_, rfl, fun opened ends => ?_, fun failure ends => ?_, take_calls visit⟩
    · simp [count_eq, state_take_ok visit ends]
    · simp [count_eq, state_take_error visit ends]
  · simp [count_eq, state_give visit]
  · rw [count_eq, count_eq, state_past]
    rcases visit with visit | visit <;> simp [visit]

/-- A connection opened twice and closed three times calls the native close at the second close. -/
theorem native_close_after_nested_opens :
    let id : ConnectionId := ⟨0⟩
    let w : Workspace Script := .begun ⟨{}, none⟩
    let visits := [take .blocking, take .async, give .async, give .blocking, give .blocking]
    (w.session.connections id).Idle ∧ ClosesAt id w visits 3 ∧ ¬ ClosesAt id w visits 4 := by
  intro id w visits
  have idle : (w.session.connections id).Idle := ⟨rfl, rfl⟩
  have opened : OpenedSinceIdle id w visits 3 := by
    refine ⟨0, by decide, ⟨.blocking, rfl, rfl, rfl⟩, fun k later bound => ?_⟩
    match k, later, bound with
    | 1, _, _ => decide
    | 2, _, _ => decide
    | 3, _, _ => decide
  have closes := ((native_close_iff_last_of_opened id w idle visits 3).2.1 .blocking rfl).2.1
  have again := ((native_close_iff_last_of_opened id w idle visits 4).2.1 .blocking rfl).2.1
  exact ⟨idle, closes.2 ⟨by decide, opened⟩, fun closes => absurd (again.1 closes).1 (by decide)⟩

end Visit

end SqlExecution
