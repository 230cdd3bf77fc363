import SqlExecution.Value.Basic

/-! Result sets and the forward-only walk over them. -/

namespace SqlExecution

structure ResultSet where
  columns : List String
  rows : List (List Value)

def ResultSet.totalRows : List ResultSet → Nat
  | [] => 0
  | s :: rest => s.rows.length + totalRows rest

/-- A place in a list of result sets. -/
structure Walk where
  sets : List ResultSet
  index : Nat := 0
  /-- The current row, or the number of rows after the last; none before the first. -/
  position : Option Nat := none

namespace Walk

/-- The current set; where there is none, it has neither columns nor rows. -/
def current (w : Walk) : ResultSet := (w.sets[w.index]?).getD ⟨[], []⟩

def rowCount (w : Walk) : Nat := w.current.rows.length

def fieldCount (w : Walk) : Nat := w.current.columns.length

/-- The number of sets and rows, which bounds the length of a walk. -/
def size (w : Walk) : Nat := w.sets.length + ResultSet.totalRows w.sets

def row? (w : Walk) : Option (List Value) := w.position.bind (w.current.rows[·]?)

def following (w : Walk) : Nat :=
  match w.position with
  | none => 0
  | some p => p + 1

/-- Go to the next row, and tell whether it is there; past the last row the walk stays. -/
def read (w : Walk) : Bool × Walk :=
  if w.following < w.rowCount then (true, { w with position := some w.following })
  else (false, { w with position := some w.rowCount })

theorem read_found (w : Walk) : w.read.1 = decide (w.following < w.rowCount) := by
  unfold read
  split <;> simp_all

@[simp] theorem current_read (w : Walk) : w.read.2.current = w.current := by
  unfold read
  split <;> rfl

def nextResult (w : Walk) : Bool × Walk :=
  if w.index + 1 < w.sets.length then (true, { w with index := w.index + 1, position := none })
  else (false, w)

theorem nextResult_found (w : Walk) : w.nextResult.1 = decide (w.index + 1 < w.sets.length) := by
  unfold nextResult
  split <;> simp_all

@[simp] theorem sets_nextResult (w : Walk) : w.nextResult.2.sets = w.sets := by
  unfold nextResult
  split <;> rfl

theorem nextResult_last (w : Walk) (h : w.nextResult.1 = false) : w.nextResult.2 = w := by
  unfold nextResult at h ⊢
  split <;> simp_all

end Walk

end SqlExecution
