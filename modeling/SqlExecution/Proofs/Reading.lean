import SqlExecution.Engine.Reader

/-! Reading a reader to its end: all its rows, all cells of each, and all sets. A reader that moves
as a walk does gives what is left of the walk, every row and set once and in order. -/

namespace SqlExecution

variable {σ α : Type}

/-- Every row is as wide as the set. -/
def ResultSet.Rectangular (set : ResultSet) : Prop :=
  ∀ row ∈ set.rows, row.length = set.columns.length

namespace Walk

variable {w : Walk}

/-- The rows of the current set that were not read yet. -/
def left (w : Walk) : List (List Value) := w.current.rows.drop w.following

/-- The sets after the current one. -/
def later (w : Walk) : List ResultSet := w.sets.drop (w.index + 1)

/-- The walk after the last row of the current set. -/
def settled (w : Walk) : Walk := { w with position := some w.rowCount }

/-- The walk after the last row of the last set. -/
def finished (w : Walk) : Walk :=
  { w with
    index := w.index + w.later.length
    position := some (w.later.getLast?.getD w.current).rows.length }

@[simp] theorem later_settled (w : Walk) : w.settled.later = w.later := rfl

@[simp] theorem finished_settled (w : Walk) : w.settled.finished = w.finished := rfl

theorem left_of_fresh (fresh : w.position = none) : w.left = w.current.rows := by
  simp [left, following, fresh]

@[simp] theorem sets_read (w : Walk) : w.read.2.sets = w.sets := by
  unfold read
  split <;> rfl

theorem settled_read (w : Walk) : w.read.2.settled = w.settled := by
  unfold read
  split <;> rfl

theorem left_of_read (found : w.read.1 = true) :
    ∃ row, w.read.2.row? = some row ∧ w.left = row :: w.read.2.left := by
  rw [read_found, decide_eq_true_eq] at found
  have moved : w.read.2 = { w with position := some w.following } := by simp [read, found]
  refine ⟨w.current.rows.get ⟨w.following, found⟩, ?_, ?_⟩
  · rw [moved]
    exact List.getElem?_eq_getElem found
  · rw [moved]
    exact List.drop_eq_getElem_cons found

theorem left_of_read_none (none : w.read.1 = false) : w.left = [] ∧ w.read.2 = w.settled := by
  rw [read_found, decide_eq_false_iff_not] at none
  exact ⟨List.drop_eq_nil_of_le (Nat.le_of_not_lt none), by simp [read, none, settled]⟩

theorem later_of_nextResult (found : w.nextResult.1 = true) :
    w.later = w.nextResult.2.current :: w.nextResult.2.later ∧
      w.nextResult.2.position = none := by
  rw [nextResult_found, decide_eq_true_eq] at found
  have moved : w.nextResult.2 = { w with index := w.index + 1, position := none } := by
    simp [nextResult, found]
  rw [moved]
  refine ⟨?_, rfl⟩
  have here : (w.sets[w.index + 1]?).getD ⟨[], []⟩ = w.sets[w.index + 1] := by
    rw [List.getElem?_eq_getElem found, Option.getD_some]
  rw [current, here]
  exact List.drop_eq_getElem_cons found

theorem finished_nextResult (found : w.nextResult.1 = true) :
    w.nextResult.2.finished = w.finished := by
  have split := (later_of_nextResult found).1
  rw [nextResult_found, decide_eq_true_eq] at found
  have moved : w.nextResult.2 = { w with index := w.index + 1, position := none } := by
    simp [nextResult, found]
  have index : w.nextResult.2.index = w.index + 1 := by rw [moved]
  have sets : w.nextResult.2.sets = w.sets := by rw [moved]
  unfold finished
  rw [split, List.getLast?_cons, index, sets]
  simp only [List.length_cons, Option.getD_some]
  congr 1
  omega

theorem later_of_nextResult_none (none : w.nextResult.1 = false) : w.later = [] := by
  rw [nextResult_found, decide_eq_false_iff_not] at none
  exact List.drop_eq_nil_of_le (Nat.le_of_not_lt none)

theorem finished_of_last (last : w.later = []) : w.finished = w.settled := by
  simp [finished, settled, last, rowCount]

theorem mem_of_row? {row : List Value} (current : w.row? = some row) : row ∈ w.current.rows := by
  obtain ⟨place, -, found⟩ := Option.bind_eq_some_iff.1 current
  exact List.mem_of_getElem? found

theorem rectangular_current (rectangular : ∀ set ∈ w.sets, set.Rectangular) :
    w.current.Rectangular := by
  unfold current
  rcases found : w.sets[w.index]? with _ | set
  · intro row member
    cases member
  · exact rectangular set (List.mem_of_getElem? found)

end Walk

theorem map_getElem?_range (l : List α) :
    (List.range l.length).map (l[·]?) = l.map some := by
  apply List.ext_getElem?
  intro i
  by_cases within : i < l.length <;> simp [within]

namespace DataReader

variable [Driver σ]

def names (r : DataReader σ) : List Nat → Engine σ (Result (List String))
  | [] => return .ok []
  | ordinal :: rest => do
    match ← r.columnName ordinal with
    | .ok name => return (← names r rest).map (name :: ·)
    | .error e => return .error e

/-- The names of all columns of the current set. -/
def header (r : DataReader σ) : Engine σ (Result (List String)) := do
  r.names (List.range (← r.fieldCount))

/-- All cells of the current row. -/
def row (r : DataReader σ) : Engine σ (Result (List Value)) := do
  r.cells (List.range (← r.fieldCount))

/-- Reading row after row, until there is none. -/
inductive Rows (mode : Mode) : DataReader σ → Session σ → List (List Value) → DataReader σ →
    Session σ → Prop where
  | ended {r r' : DataReader σ} {s t : Session σ} :
      r.read mode s = ((.ok false, r'), t) → Rows mode r s [] r' t
  | row {r r' r'' : DataReader σ} {s t u v : Session σ} {row : List Value}
      {rows : List (List Value)} :
      r.read mode s = ((.ok true, r'), t) → r'.row t = (.ok row, u) → Rows mode r' u rows r'' v →
      Rows mode r s (row :: rows) r'' v

/-- Reading a set from its start to its end. -/
def ReadsSet (mode : Mode) (r : DataReader σ) (s : Session σ) (set : ResultSet) (r' : DataReader σ)
    (t : Session σ) : Prop :=
  ∃ told, r.header s = (.ok set.columns, told) ∧ Rows mode r told set.rows r' t

/-- Reading set after set to its end, until there is none. -/
inductive Drains (mode : Mode) : DataReader σ → Session σ → List ResultSet → DataReader σ →
    Session σ → Prop where
  | last {r r' r'' : DataReader σ} {s t u : Session σ} {set : ResultSet} :
      ReadsSet mode r s set r' t → r'.nextResult mode t = ((.ok false, r''), u) →
      Drains mode r s [set] r'' u
  | more {r r' r'' last : DataReader σ} {s t u v : Session σ} {set : ResultSet}
      {sets : List ResultSet} :
      ReadsSet mode r s set r' t → r'.nextResult mode t = ((.ok true, r''), u) →
      Drains mode r'' u sets last v → Drains mode r s (set :: sets) last v

/-- A reader that stands where a walk does tells what is there, and moves as the walk does. -/
structure Follows (mode : Mode) (stands : Walk → DataReader σ → Session σ → Prop) : Prop where
  fieldCount {w : Walk} {r : DataReader σ} {s : Session σ} :
    stands w r s → r.fieldCount s = (w.fieldCount, s)
  columnName {w : Walk} {r : DataReader σ} {s : Session σ} {ordinal : Nat} {name : String} :
    stands w r s → w.current.columns[ordinal]? = some name →
      ∃ t, r.columnName ordinal s = (.ok name, t) ∧ stands w r t
  getValue {w : Walk} {r : DataReader σ} {s : Session σ} {ordinal : Nat} {row : List Value}
      {v : Value} :
    stands w r s → w.row? = some row → row[ordinal]? = some v →
      ∃ t, r.getValue ordinal s = (.ok v, t) ∧ stands w r t
  read {w : Walk} {r : DataReader σ} {s : Session σ} :
    stands w r s → ∃ r' t, r.read mode s = ((.ok w.read.1, r'), t) ∧ stands w.read.2 r' t
  nextResult {w : Walk} {r : DataReader σ} {s : Session σ} :
    stands w r s →
      ∃ r' t, r.nextResult mode s = ((.ok w.nextResult.1, r'), t) ∧ stands w.nextResult.2 r' t

namespace Follows

variable {mode : Mode} {stands : Walk → DataReader σ → Session σ → Prop} {w : Walk}
  {r : DataReader σ} {s : Session σ}

theorem names (follows : Follows mode stands) {ordinals : List Nat} {names : List String}
    (there : ordinals.map (w.current.columns[·]?) = names.map some) (standing : stands w r s) :
    ∃ t, r.names ordinals s = (.ok names, t) ∧ stands w r t := by
  induction ordinals generalizing names s with
  | nil =>
    obtain rfl : names = [] := by simpa using there.symm
    exact ⟨s, rfl, standing⟩
  | cons ordinal rest ih =>
    cases names with
    | nil => simp at there
    | cons name names =>
      obtain ⟨first, others⟩ := List.cons.inj there
      obtain ⟨t, told, standing⟩ := follows.columnName standing first
      obtain ⟨u, told', standing⟩ := ih others standing
      refine ⟨u, ?_, standing⟩
      rw [DataReader.names, Engine.bind_apply, told]
      dsimp only
      rw [Engine.bind_apply, told']
      rfl

theorem cells (follows : Follows mode stands) {ordinals : List Nat} {row cells : List Value}
    (current : w.row? = some row) (there : ordinals.map (row[·]?) = cells.map some)
    (standing : stands w r s) : ∃ t, r.cells ordinals s = (.ok cells, t) ∧ stands w r t := by
  induction ordinals generalizing cells s with
  | nil =>
    obtain rfl : cells = [] := by simpa using there.symm
    exact ⟨s, rfl, standing⟩
  | cons ordinal rest ih =>
    cases cells with
    | nil => simp at there
    | cons v cells =>
      obtain ⟨first, others⟩ := List.cons.inj there
      obtain ⟨t, got, standing⟩ := follows.getValue standing current first
      obtain ⟨u, got', standing⟩ := ih others standing
      refine ⟨u, ?_, standing⟩
      rw [DataReader.cells, Engine.bind_apply, got]
      dsimp only
      rw [Engine.bind_apply, got']
      rfl

theorem header (follows : Follows mode stands) (standing : stands w r s) :
    ∃ t, r.header s = (.ok w.current.columns, t) ∧ stands w r t := by
  unfold DataReader.header
  rw [Engine.bind_apply, follows.fieldCount standing]
  exact follows.names (map_getElem?_range _) standing

theorem row (follows : Follows mode stands) {row : List Value} (current : w.row? = some row)
    (wide : row.length = w.fieldCount) (standing : stands w r s) :
    ∃ t, r.row s = (.ok row, t) ∧ stands w r t := by
  unfold DataReader.row
  rw [Engine.bind_apply, follows.fieldCount standing]
  dsimp only
  rw [← wide]
  exact follows.cells current (map_getElem?_range _) standing

theorem rows (follows : Follows mode stands) (rectangular : w.current.Rectangular)
    (standing : stands w r s) : ∃ r' t, Rows mode r s w.left r' t ∧ stands w.settled r' t := by
  induction left : w.left generalizing w r s with
  | nil =>
    obtain ⟨r', t, moves, standing⟩ := follows.read standing
    rcases found : w.read.1 with _ | _
    · rw [(Walk.left_of_read_none found).2] at standing
      rw [found] at moves
      exact ⟨r', t, .ended moves, standing⟩
    · obtain ⟨row, -, more⟩ := Walk.left_of_read found
      rw [left] at more
      cases more
  | cons row rest ih =>
    obtain ⟨r', t, moves, standing⟩ := follows.read standing
    rcases found : w.read.1 with _ | _
    · have none := (Walk.left_of_read_none found).1
      rw [left] at none
      cases none
    · obtain ⟨row', current, more⟩ := Walk.left_of_read found
      obtain ⟨rfl, rfl⟩ := List.cons.inj (left.symm.trans more)
      rw [found] at moves
      have wide : row.length = w.read.2.fieldCount := by
        rw [Walk.fieldCount, Walk.current_read]
        exact rectangular row (Walk.current_read w ▸ Walk.mem_of_row? current)
      obtain ⟨u, got, standing⟩ := follows.row current wide standing
      have rectangular' : w.read.2.current.Rectangular := by rwa [Walk.current_read]
      obtain ⟨r'', v, rest, standing⟩ := ih rectangular' standing rfl
      rw [Walk.settled_read] at standing
      exact ⟨r'', v, .row moves got rest, standing⟩

theorem readsSet (follows : Follows mode stands) (rectangular : ∀ set ∈ w.sets, set.Rectangular)
    (fresh : w.position = none) (standing : stands w r s) :
    ∃ r' t, ReadsSet mode r s w.current r' t ∧ stands w.settled r' t := by
  obtain ⟨t, told, standing⟩ := follows.header standing
  obtain ⟨r', u, read, standing⟩ := follows.rows (Walk.rectangular_current rectangular) standing
  rw [Walk.left_of_fresh fresh] at read
  exact ⟨r', u, ⟨t, told, read⟩, standing⟩

/-- What is left of a walk at the start of a set is read, every set and row once and in order. -/
theorem drains (follows : Follows mode stands) (rectangular : ∀ set ∈ w.sets, set.Rectangular)
    (fresh : w.position = none) (standing : stands w r s) :
    ∃ r' t, Drains mode r s (w.current :: w.later) r' t ∧ stands w.finished r' t := by
  -- The current set is read to its end, and the induction is on those after it.
  induction later : w.later generalizing w r s with
  | nil =>
    obtain ⟨r', t, read, standing⟩ := follows.readsSet rectangular fresh standing
    obtain ⟨r'', u, moves, standing⟩ := follows.nextResult standing
    rcases found : w.settled.nextResult.1 with _ | _
    · rw [Walk.nextResult_last _ found, ← Walk.finished_of_last later] at standing
      rw [found] at moves
      exact ⟨r'', u, .last read moves, standing⟩
    · have more := (Walk.later_of_nextResult found).1
      rw [Walk.later_settled, later] at more
      cases more
  | cons set rest ih =>
    obtain ⟨r', t, read, standing⟩ := follows.readsSet rectangular fresh standing
    obtain ⟨r'', u, moves, standing⟩ := follows.nextResult standing
    rcases found : w.settled.nextResult.1 with _ | _
    · have none := Walk.later_of_nextResult_none found
      rw [Walk.later_settled, later] at none
      cases none
    · obtain ⟨more, fresh⟩ := Walk.later_of_nextResult found
      rw [Walk.later_settled, later] at more
      obtain ⟨rfl, rfl⟩ := List.cons.inj more
      rw [found] at moves
      have rectangular' : ∀ set ∈ w.settled.nextResult.2.sets, set.Rectangular := by
        rwa [Walk.sets_nextResult]
      obtain ⟨last, v, rest, standing⟩ := ih rectangular' fresh standing rfl
      rw [Walk.finished_nextResult found, Walk.finished_settled] at standing
      exact ⟨last, v, .more read moves rest, standing⟩

end Follows

theorem Rows.unique {mode : Mode} {r r' r'' : DataReader σ} {s t u : Session σ}
    {rows rows' : List (List Value)} (first : Rows mode r s rows r' t)
    (second : Rows mode r s rows' r'' u) : rows = rows' ∧ r' = r'' ∧ t = u := by
  induction first generalizing rows' r'' u with
  | ended ends =>
    cases second with
    | ended ends' =>
      cases ends.symm.trans ends'
      exact ⟨rfl, rfl, rfl⟩
    | row moves => cases ends.symm.trans moves
  | row moves got _ ih =>
    cases second with
    | ended ends => cases moves.symm.trans ends
    | row moves' got' rest' =>
      cases moves.symm.trans moves'
      cases got.symm.trans got'
      obtain ⟨rfl, rfl, rfl⟩ := ih rest'
      exact ⟨rfl, rfl, rfl⟩

theorem ReadsSet.unique {mode : Mode} {r r' r'' : DataReader σ} {s t u : Session σ}
    {set set' : ResultSet} (first : ReadsSet mode r s set r' t)
    (second : ReadsSet mode r s set' r'' u) : set = set' ∧ r' = r'' ∧ t = u := by
  obtain ⟨told, header, rows⟩ := first
  obtain ⟨told', header', rows'⟩ := second
  cases set
  cases set'
  cases header.symm.trans header'
  obtain ⟨rfl, rfl, rfl⟩ := rows.unique rows'
  exact ⟨rfl, rfl, rfl⟩

theorem Drains.unique {mode : Mode} {r r' r'' : DataReader σ} {s t u : Session σ}
    {sets sets' : List ResultSet} (first : Drains mode r s sets r' t)
    (second : Drains mode r s sets' r'' u) : sets = sets' ∧ r' = r'' ∧ t = u := by
  induction first generalizing sets' r'' u with
  | last read ends =>
    cases second with
    | last read' ends' =>
      obtain ⟨rfl, rfl, rfl⟩ := read.unique read'
      cases ends.symm.trans ends'
      exact ⟨rfl, rfl, rfl⟩
    | more read' moves =>
      obtain ⟨-, rfl, rfl⟩ := read.unique read'
      cases ends.symm.trans moves
  | more read moves _ ih =>
    cases second with
    | last read' ends =>
      obtain ⟨-, rfl, rfl⟩ := read.unique read'
      cases moves.symm.trans ends
    | more read' moves' rest' =>
      obtain ⟨rfl, rfl, rfl⟩ := read.unique read'
      cases moves.symm.trans moves'
      obtain ⟨rfl, rfl, rfl⟩ := ih rest'
      exact ⟨rfl, rfl, rfl⟩

end DataReader

/-- A cursor over result sets: it tells what is where it stands, moves as a walk over them, and
reports the number of affected rows by where it stands. `shows` says which walk a scene has it at. -/
structure Cursor.Presents [Driver σ] (c : Cursor) (mode : Mode) (affected : Walk → Int64)
    (shows : Walk → Scene σ → Prop) : Prop where
  fieldCount {w : Walk} {scene : Scene σ} :
    shows w scene → Driver.fieldCount c scene.state = w.fieldCount
  recordsAffected {w : Walk} {scene : Scene σ} :
    shows w scene → Driver.recordsAffected c scene.state = affected w
  columnName {w : Walk} {scene : Scene σ} {ordinal : Nat} {name : String} :
    shows w scene → w.current.columns[ordinal]? = some name →
      ∃ after, Driver.columnName c ordinal scene = (.ok name, after) ∧ shows w after
  getValue {w : Walk} {scene : Scene σ} {ordinal : Nat} {row : List Value} {v : Value} :
    shows w scene → w.row? = some row → row[ordinal]? = some v →
      ∃ after, Driver.getValue c ordinal scene = (.ok v, after) ∧ shows w after
  read {w : Walk} {scene : Scene σ} :
    shows w scene →
      ∃ after, (Driver.read c).perform mode scene = (.ok w.read.1, after) ∧ shows w.read.2 after
  nextResult {w : Walk} {scene : Scene σ} :
    shows w scene →
      ∃ after, (Driver.nextResult c).perform mode scene = (.ok w.nextResult.1, after) ∧
        shows w.nextResult.2 after

theorem Engine.call_apply (note : NativeCall) {a : Act σ α} {s : Session σ} {x : α}
    {after : Scene σ} (acts : a s.scene = (x, after)) :
    ∃ t, Engine.call note a s = (x, t) ∧ t.scene = after := by
  have gives : (Engine.call note a s).1 = (a s.scene).1 := rfl
  have scene : (Engine.call note a s).2.scene = (a s.scene).2 := rfl
  rw [acts] at gives scene
  exact ⟨_, Prod.ext gives rfl, scene⟩

namespace DataReader

theorem cursor_counted (r : DataReader σ) (o : Outcome Bool) : (r.counted o).cursor? = r.cursor? := by
  unfold counted
  split <;> rfl

theorem cursor_withBuffer {r : DataReader σ} {x : DataCursor} (reads : r.cursor? = some x)
    (b : BufferedReader) : (r.withBuffer b).cursor? = some (.buffered b) := by
  unfold cursor? at reads
  unfold withBuffer
  rcases phase : r.phase with _ | binding | _
  · simp [phase, ReaderPhase.binding?] at reads
  · rfl
  · simp [phase, ReaderPhase.binding?] at reads

variable [Driver σ] {c : Cursor} {mode : Mode} {affected : Walk → Int64}
  {shows : Walk → Scene σ → Prop}

theorem recordsAffected_native {r : DataReader σ} (direct : r.cursor? = some (.native c))
    (s : Session σ) : (r.recordsAffected s).1 = Driver.recordsAffected c s.scene.state := by
  unfold recordsAffected
  rw [direct]
  rfl

theorem recordsAffected_buffered {r : DataReader σ} {b : BufferedReader}
    (copied : r.cursor? = some (.buffered b)) (s : Session σ) :
    (r.recordsAffected s).1 = b.recordsAffected := by
  unfold recordsAffected
  rw [copied]
  rfl

theorem follows_native (presents : c.Presents mode affected shows) :
    Follows mode fun w (r : DataReader σ) s => r.cursor? = some (.native c) ∧ shows w s.scene where
  fieldCount := by
    rintro w r s ⟨reads, stands⟩
    unfold fieldCount
    rw [reads]
    exact Prod.ext (presents.fieldCount stands) rfl
  columnName := by
    rintro w r s ordinal name ⟨reads, stands⟩ named
    obtain ⟨after, tells, stands⟩ := presents.columnName stands named
    obtain ⟨t, gives, rfl⟩ := Engine.call_apply (.columnName c ordinal) tells
    refine ⟨t, ?_, reads, stands⟩
    unfold columnName
    rw [reads]
    exact gives
  getValue := by
    rintro w r s ordinal row v ⟨reads, stands⟩ current there
    obtain ⟨after, tells, stands⟩ := presents.getValue stands current there
    obtain ⟨t, gives, rfl⟩ := Engine.call_apply (.getValue c ordinal) tells
    refine ⟨t, ?_, reads, stands⟩
    unfold getValue
    rw [reads]
    exact gives
  read := by
    rintro w r s ⟨reads, stands⟩
    obtain ⟨after, moves, stands⟩ := presents.read stands
    obtain ⟨t, gives, rfl⟩ := Engine.call_apply (.read c mode) moves
    have reading : r.read mode s = ((.ok w.read.1, r.counted (.ok w.read.1)), t) := by
      unfold read Cursor.read
      rw [reads]
      dsimp only
      rw [Engine.bind_apply, Attempt.observe_call, gives]
      rfl
    exact ⟨_, t, reading, (cursor_counted r _).trans reads, stands⟩
  nextResult := by
    rintro w r s ⟨reads, stands⟩
    obtain ⟨after, moves, stands⟩ := presents.nextResult stands
    obtain ⟨t, gives, rfl⟩ := Engine.call_apply (.nextResult c mode) moves
    refine ⟨r, t, ?_, reads, stands⟩
    unfold nextResult Cursor.nextResult
    rw [reads]
    dsimp only
    rw [Engine.bind_apply, Attempt.observe_call, gives]
    rfl

theorem follows_buffered (mode : Mode) {b : BufferedReader} (unclosed : b.closed = false)
    (start : Session σ) :
    Follows mode fun w (r : DataReader σ) s =>
      r.cursor? = some (.buffered { b with walk := w }) ∧ s = start where
  fieldCount := by
    rintro w r s ⟨reads, rfl⟩
    unfold fieldCount
    rw [reads]
    rfl
  columnName := by
    rintro w r s ordinal name ⟨reads, rfl⟩ named
    refine ⟨s, ?_, reads, rfl⟩
    unfold columnName
    rw [reads]
    simp [BufferedReader.columnName, named]
  getValue := by
    rintro w r s ordinal row v ⟨reads, rfl⟩ current there
    refine ⟨s, ?_, reads, rfl⟩
    unfold getValue
    rw [reads]
    simp [BufferedReader.getValue, unclosed, current, there]
  read := by
    rintro w r s ⟨reads, rfl⟩
    have moves : ({ b with walk := w } : BufferedReader).read =
        (.ok w.read.1, { b with walk := w.read.2 }) := by
      simp [BufferedReader.read, BufferedReader.move, unclosed]
    refine ⟨_, s, ?_, (cursor_counted _ (.ok w.read.1)).trans
      (cursor_withBuffer reads { b with walk := w.read.2 }), rfl⟩
    unfold read
    rw [reads]
    dsimp only
    rw [moves]
    rfl
  nextResult := by
    rintro w r s ⟨reads, rfl⟩
    have moves : ({ b with walk := w } : BufferedReader).nextResult =
        (.ok w.nextResult.1, { b with walk := w.nextResult.2 }) := by
      simp [BufferedReader.nextResult, BufferedReader.move, unclosed]
    refine ⟨_, s, ?_, cursor_withBuffer reads { b with walk := w.nextResult.2 }, rfl⟩
    unfold nextResult
    rw [reads]
    dsimp only
    rw [moves]
    rfl

end DataReader

end SqlExecution
