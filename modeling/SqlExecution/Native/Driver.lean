import SqlExecution.Native.Basic
import SqlExecution.Outcome

/-! The driver contract. Drivers and interceptors act on a scene: their own state, and the context
that asynchronous operations run under, which they may cancel. They see nothing of the engine. -/

namespace SqlExecution

/-- The state of the surroundings, and the reason their context was cancelled for, if it was. -/
structure Scene (σ : Type) where
  state : σ
  cancelled : Option CancelReason

abbrev Act (σ α : Type) := StateM (Scene σ) α

/-- An operation in its two forms: blocking, which ends with a value or an error, and asynchronous,
which may also end cancelled or panicked. -/
structure Dual (σ α : Type) where
  blocking : Act σ (Result α)
  async : Act σ (Outcome α)

namespace Dual

variable {σ α : Type}

def perform (d : Dual σ α) : Mode → Act σ (Outcome α)
  | .blocking => fun s => let (r, s) := d.blocking s; (Outcome.ofResult r, s)
  | .async => d.async

/-- The operation whose asynchronous form is its blocking form. -/
def ofBlocking (act : Act σ (Result α)) : Dual σ α :=
  ⟨act, fun s => let (r, s) := act s; (Outcome.ofResult r, s)⟩

/-- The two forms then do the same. -/
theorem perform_ofBlocking (act : Act σ (Result α)) (mode : Mode) :
    (ofBlocking act).perform mode = fun s => (Outcome.ofResult (act s).1, (act s).2) := by
  cases mode <;> rfl

def pure (a : α) : Dual σ α := ofBlocking fun s => (.ok a, s)

@[simp] theorem perform_pure (a : α) (mode : Mode) :
    (pure a : Dual σ α).perform mode = fun s => (.ok a, s) := by cases mode <;> rfl

end Dual

class Driver (σ : Type) where
  isOpen : ConnectionId → σ → Bool
  openConnection : ConnectionId → Dual σ Unit
  closeConnection : ConnectionId → Dual σ Unit
  createCommand : ConnectionId → Act σ (Result NativeCommand)
  begin : ConnectionId → IsolationLevel → Dual σ NativeTransaction
  commit : NativeTransaction → Dual σ Unit
  rollback : NativeTransaction → Dual σ Unit
  executeNonQuery : NativeCommand → Dual σ Int64
  /-- The first cell of the first row; absent when there are no rows. -/
  executeScalar : NativeCommand → Dual σ (Option Value)
  executeReader : NativeCommand → Dual σ Cursor
  dispose : NativeCommand → Dual σ Unit
  fieldCount : Cursor → σ → Nat
  recordsAffected : Cursor → σ → Int64
  /-- How often reading and moving on can still succeed. -/
  remaining : Cursor → σ → Nat
  columnName : Cursor → Nat → Act σ (Result String)
  read : Cursor → Dual σ Bool
  nextResult : Cursor → Dual σ Bool
  getValue : Cursor → Nat → Act σ (Result Value)
  closeCursor : Cursor → Dual σ Unit

end SqlExecution
