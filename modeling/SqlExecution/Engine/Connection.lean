import SqlExecution.Engine.Hooks

/-! Opening and closing. A connection counts its opens; the native connection is opened by the first
that finds it closed, and closed again when the last open is given back, but only if it was opened
here. -/

namespace SqlExecution

variable {σ : Type}

open Trace

def Engine.connect (c : Connection σ) : Engine σ ConnectionId := do
  let id : ConnectionId := ⟨← mint⟩
  modifyConnection id fun _ => c
  return id

namespace Connection

/-- One more open; tells whether the native connection was opened for it. -/
def acquired (opened : Bool) (c : Connection σ) : Connection σ :=
  { c with openCount := c.openCount + 1, openedHere := c.openedHere || opened }

/-- One open fewer, and whether the native connection is to be closed: when no open is left and it
was opened here. -/
def released (c : Connection σ) : Connection σ × Bool :=
  if c.openCount - 1 = 0 ∧ c.openedHere then
    ({ c with openCount := 0, openedHere := false }, true)
  else ({ c with openCount := c.openCount - 1 }, false)

@[simp] theorem openCount_acquired (b : Bool) (c : Connection σ) :
    (c.acquired b).openCount = c.openCount + 1 := rfl

@[simp] theorem openCount_released (c : Connection σ) :
    c.released.1.openCount = c.openCount - 1 := by
  unfold released
  split <;> simp_all

@[simp] theorem openedHere_acquired (b : Bool) (c : Connection σ) :
    (c.acquired b).openedHere = (c.openedHere || b) := rfl

/-- That it was opened here is forgotten with the last open. -/
theorem openedHere_released (c : Connection σ) :
    c.released.1.openedHere = true ↔ c.openedHere = true ∧ 0 < c.openCount - 1 := by
  unfold released
  split
  · rename_i last
    simp [last.1]
  · rename_i more
    cases here : c.openedHere with
    | false => simp
    | true =>
      have left : c.openCount - 1 ≠ 0 := fun none => more ⟨none, here⟩
      simp only [true_and, true_iff]
      omega

theorem closes_released (c : Connection σ) :
    c.released.2 = true ↔ c.openCount - 1 = 0 ∧ c.openedHere = true := by
  unfold released
  split <;> simp_all

end Connection

namespace ConnectionId

variable [Driver σ]

def callNative (note : ConnectionId → Mode → NativeCall) (act : ConnectionId → Dual σ Unit)
    (mode : Mode) (id : ConnectionId) : Attempt σ Unit := Attempt.call (note id mode) mode (act id)

def openNative (mode : Mode) (id : ConnectionId) : Attempt σ Bool := do
  if Driver.isOpen id (← get).scene.state then return false
  Attempt.trace .debug connectionTarget "Opening connection"
    [connectionField id, ("is_async", .bool mode.isAsync)]
  match ← (id.callNative .openConnection Driver.openConnection mode).outcome with
  | .ok () =>
    Attempt.trace .debug connectionTarget "Opened connection" [connectionField id]
    return true
  | .error failure =>
    if let .error e := failure then
      Attempt.trace .error connectionTarget "Failed to open connection"
        [connectionField id, errorField e]
    throw failure

/-- Take one open; tells whether the native connection was opened for it. -/
def acquire (mode : Mode) (id : ConnectionId) : Attempt σ Bool := do
  let opened ← openNative mode id
  Attempt.lift (Engine.modifyConnection id (·.acquired opened))
  return opened

/-- Give one open back; tells whether the native connection was closed for it. -/
def release (mode : Mode) (id : ConnectionId) : Attempt σ Bool := do
  let (c, closes) := ((← get).connections id).released
  Attempt.lift (Engine.modifyConnection id fun _ => c)
  if !closes then return false
  Attempt.trace .debug connectionTarget "Closing connection"
    [connectionField id, ("is_async", .bool mode.isAsync)]
  id.callNative .closeConnection Driver.closeConnection mode
  return true

def releaseOutcome (mode : Mode) (id : ConnectionId) : Engine σ (Outcome Unit) := do
  return (← (release mode id).observe).map fun _ => ()

end ConnectionId

end SqlExecution
