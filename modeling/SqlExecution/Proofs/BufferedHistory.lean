import SqlExecution.Proofs.BufferedCopy

/-! What a buffered reader answers, told from the calls that were made before. Which set is the
current one, and how often it was read from, is counted in the past calls alone; those made after
the reader was closed do not count. -/

namespace SqlExecution

variable {σ α β : Type}

/-- What can be asked of a buffered reader. -/
inductive BufferCall where
  | read
  | nextResult
  | getValue (ordinal : Nat)
  | isNull (ordinal : Nat)
  | columnName (ordinal : Nat)
  | rowCount
  | fieldCount
  | close
  deriving DecidableEq

inductive BufferAnswer where
  | moved (found : Result Bool)
  | value (v : Result Value)
  | null (isNull : Result Bool)
  | name (columnName : Result String)
  | count (n : Nat)
  | closed

namespace BufferedReader

def perform (b : BufferedReader) : BufferCall → BufferAnswer × BufferedReader
  | .read => (.moved b.read.1, b.read.2)
  | .nextResult => (.moved b.nextResult.1, b.nextResult.2)
  | .getValue ordinal => (.value (b.getValue ordinal), b)
  | .isNull ordinal => (.null (b.isNull ordinal), b)
  | .columnName ordinal => (.name (b.columnName ordinal), b)
  | .rowCount => (.count b.walk.rowCount, b)
  | .fieldCount => (.count b.walk.fieldCount, b)
  | .close => (.closed, b.close)

/-- The reader after the calls. -/
def run (b : BufferedReader) (calls : List BufferCall) : BufferedReader :=
  calls.foldl (fun b call => (b.perform call).2) b

end BufferedReader

namespace BufferCall

variable {sets : List ResultSet} {past : List BufferCall} {call : BufferCall}

/-- The calls before the reader was closed. -/
def live (past : List BufferCall) : List BufferCall := past.takeWhile (· ≠ .close)

/-- The calls after so many calls for the next set. -/
def afterMoves : Nat → List BufferCall → List BufferCall
  | 0, calls => calls
  | _ + 1, [] => []
  | n + 1, call :: calls =>
    if call = .nextResult then afterMoves n calls else afterMoves (n + 1) calls

def moves (past : List BufferCall) : Nat := (live past).count .nextResult

/-- Every call for the next set moves on, until the last set is reached. -/
def index (sets : List ResultSet) (past : List BufferCall) : Nat :=
  min (moves past) (sets.length - 1)

def current (sets : List ResultSet) (past : List BufferCall) : ResultSet :=
  (sets[index sets past]?).getD ⟨[], []⟩

/-- How often the current set was read from since it was moved to. -/
def reads (sets : List ResultSet) (past : List BufferCall) : Nat :=
  (afterMoves (index sets past) (live past)).count .read

/-- The row that the latest read in the current set found. -/
def row? (sets : List ResultSet) (past : List BufferCall) : Option (List Value) :=
  match reads sets past with
  | 0 => none
  | n + 1 => (current sets past).rows[n]?

def value (sets : List ResultSet) (past : List BufferCall) (ordinal : Nat) : Result Value :=
  if .close ∈ past then .error BufferedReader.closedError
  else match row? sets past with
    | none => .error BufferedReader.noRowError
    | some row => match row[ordinal]? with
      | some v => .ok v
      | none => .error (BufferedReader.ordinalError ordinal)

/-- What a call is answered after the past ones. A set of so many rows answers true to as many
reads, and so many sets to as many calls for the next one, less one. -/
def answer (sets : List ResultSet) (past : List BufferCall) : BufferCall → BufferAnswer
  | .read => .moved (
      if .close ∈ past then .error BufferedReader.closedError
      else .ok (decide (reads sets past < (current sets past).rows.length)))
  | .nextResult => .moved (
      if .close ∈ past then .error BufferedReader.closedError
      else .ok (decide (moves past + 1 < sets.length)))
  | .getValue ordinal => .value (value sets past ordinal)
  | .isNull ordinal => .null ((value sets past ordinal).map Value.isNull)
  | .columnName ordinal => .name (
      match (current sets past).columns[ordinal]? with
      | some name => .ok name
      | none => .error (BufferedReader.ordinalError ordinal))
  | .rowCount => .count (current sets past).rows.length
  | .fieldCount => .count (current sets past).columns.length
  | .close => .closed

theorem live_append (past more : List BufferCall) :
    live (past ++ more) = if .close ∈ past then live past else past ++ live more := by
  unfold live
  induction past with
  | nil => simp
  | cons first rest ih =>
    by_cases same : first = .close
    · simp [same]
    · have among : .close ∈ first :: rest ↔ .close ∈ rest := by simp [Ne.symm same]
      have going : decide (first ≠ .close) = true := decide_eq_true same
      simp only [List.cons_append, List.takeWhile_cons, going, if_true, ih, among]
      split <;> rfl

theorem live_of_open (unclosed : .close ∉ past) : live past = past := by
  have whole := live_append past []
  rwa [if_neg unclosed, List.append_nil, show live [] = [] from rfl, List.append_nil] at whole

theorem live_append_of_closed (closed : .close ∈ past) (more : List BufferCall) :
    live (past ++ more) = live past := by
  rw [live_append, if_pos closed]

theorem live_concat_close (past : List BufferCall) : live (past ++ [.close]) = live past := by
  by_cases closed : .close ∈ past
  · exact live_append_of_closed closed _
  · rw [live_append, if_neg closed, live_of_open closed]
    exact List.append_nil past

theorem live_concat (unclosed : .close ∉ past) (goesOn : call ≠ .close) :
    live (past ++ [call]) = live past ++ [call] := by
  have still : .close ∉ [call] := by simpa using goesOn.symm
  rw [live_append, if_neg unclosed, live_of_open unclosed, live_of_open still]

theorem afterMoves_append {n : Nat} {calls : List BufferCall}
    (enough : n ≤ calls.count .nextResult) (more : List BufferCall) :
    afterMoves n (calls ++ more) = afterMoves n calls ++ more := by
  induction calls generalizing n with
  | nil =>
    obtain rfl : n = 0 := Nat.le_zero.1 enough
    simp [afterMoves]
  | cons call rest ih =>
    cases n with
    | zero => rfl
    | succ n =>
      rw [List.cons_append]
      unfold afterMoves
      by_cases same : call = .nextResult
      · rw [if_pos same, if_pos same]
        rw [same, List.count_cons_self] at enough
        exact ih (Nat.le_of_succ_le_succ enough)
      · rw [if_neg same, if_neg same]
        rw [List.count_cons_of_ne same] at enough
        exact ih enough

theorem afterMoves_last (calls : List BufferCall) :
    afterMoves (calls.count .nextResult + 1) (calls ++ [.nextResult]) = [] := by
  induction calls with
  | nil => rfl
  | cons call rest ih =>
    rw [List.cons_append]
    unfold afterMoves
    by_cases same : call = .nextResult
    · rw [if_pos same, same, List.count_cons_self]
      exact ih
    · rw [if_neg same, List.count_cons_of_ne same]
      exact ih

theorem afterMoves_suffix {n : Nat} {calls : List BufferCall}
    (enough : n ≤ calls.count .nextResult) :
    ∃ before, calls = before ++ afterMoves n calls ∧ before.count .nextResult = n := by
  induction calls generalizing n with
  | nil =>
    obtain rfl : n = 0 := Nat.le_zero.1 enough
    exact ⟨[], rfl, rfl⟩
  | cons call rest ih =>
    cases n with
    | zero => exact ⟨[], rfl, rfl⟩
    | succ n =>
      unfold afterMoves
      by_cases same : call = .nextResult
      · rw [same, List.count_cons_self] at enough
        obtain ⟨before, split, counted⟩ := ih (Nat.le_of_succ_le_succ enough)
        refine ⟨call :: before, ?_, by rw [same, List.count_cons_self, counted]⟩
        rw [if_pos same, List.cons_append, ← split]
      · rw [List.count_cons_of_ne same] at enough
        obtain ⟨before, split, counted⟩ := ih enough
        refine ⟨call :: before, ?_, by rw [List.count_cons_of_ne same, counted]⟩
        rw [if_neg same, List.cons_append, ← split]

theorem moves_concat (unclosed : .close ∉ past) (goesOn : call ≠ .close) :
    moves (past ++ [call]) = moves past + if call = .nextResult then 1 else 0 := by
  rw [moves, live_concat unclosed goesOn, List.count_append, List.count_singleton]
  simp [moves]

theorem reads_concat (unclosed : .close ∉ past) (goesOn : call ≠ .close)
    (stays : index sets (past ++ [call]) = index sets past) :
    reads sets (past ++ [call]) = reads sets past + if call = .read then 1 else 0 := by
  have enough : index sets past ≤ (live past).count .nextResult := Nat.min_le_left _ _
  rw [reads, stays, live_concat unclosed goesOn, afterMoves_append enough, List.count_append,
    List.count_singleton]
  simp [reads]

theorem reads_of_moved (unclosed : .close ∉ past) (more : moves past + 1 < sets.length) :
    index sets (past ++ [.nextResult]) = index sets past + 1 ∧
      reads sets (past ++ [.nextResult]) = 0 := by
  have moved : moves (past ++ [.nextResult]) = moves past + 1 :=
    moves_concat unclosed BufferCall.noConfusion
  have here : index sets past = moves past := Nat.min_eq_left (by omega)
  have there : index sets (past ++ [.nextResult]) = moves past + 1 := by
    rw [index, moved]
    exact Nat.min_eq_left (by omega)
  refine ⟨by rw [there, here], ?_⟩
  rw [reads, there, live_concat unclosed BufferCall.noConfusion, moves, afterMoves_last]
  rfl

theorem index_of_refused (unclosed : .close ∉ past) (last : ¬ moves past + 1 < sets.length) :
    index sets (past ++ [.nextResult]) = index sets past := by
  have moved : moves (past ++ [.nextResult]) = moves past + 1 :=
    moves_concat unclosed BufferCall.noConfusion
  unfold index
  omega

theorem index_concat (unclosed : .close ∉ past) (goesOn : call ≠ .close)
    (stays : call ≠ .nextResult) : index sets (past ++ [call]) = index sets past := by
  rw [index, index, moves_concat unclosed goesOn, if_neg stays, Nat.add_zero]

theorem reads_of_split {before after : List BufferCall}
    (unclosed : .close ∉ before ++ .read :: after) (last : .read ∉ after)
    (same : index sets before = index sets (before ++ .read :: after)) :
    reads sets (before ++ .read :: after) = reads sets before + 1 := by
  have unclosed' : .close ∉ before := fun member => unclosed (List.mem_append_left _ member)
  have enough : index sets before ≤ before.count .nextResult := by
    have moved : moves before = before.count .nextResult := by rw [moves, live_of_open unclosed']
    exact moved ▸ Nat.min_le_left _ _
  rw [reads, ← same, live_of_open unclosed, afterMoves_append enough, List.count_append,
    List.count_cons_self, List.count_eq_zero_of_not_mem last, reads, live_of_open unclosed']

theorem exists_latest_read (unclosed : .close ∉ past) (some : 0 < reads sets past) :
    ∃ before after, past = before ++ .read :: after ∧ .read ∉ after ∧
      index sets before = index sets past := by
  have moved : moves past = past.count .nextResult := by rw [moves, live_of_open unclosed]
  have enough : index sets past ≤ past.count .nextResult := moved ▸ Nat.min_le_left _ _
  obtain ⟨earlier, split, counted⟩ := afterMoves_suffix enough
  have member : BufferCall.read ∈ (afterMoves (index sets past) past).reverse := by
    rw [reads, live_of_open unclosed] at some
    exact List.mem_reverse.2 (List.count_pos_iff.1 some)
  obtain ⟨after, here, divided, last⟩ := List.eq_append_cons_of_mem member
  have parts : afterMoves (index sets past) past = here.reverse ++ .read :: after.reverse := by
    rw [← List.reverse_reverse (afterMoves _ _), divided]
    simp
  have whole : past = (earlier ++ here.reverse) ++ .read :: after.reverse := by
    rw [List.append_assoc, ← parts, ← split]
  refine ⟨_, _, whole, by simpa using last, ?_⟩
  have unclosed' : .close ∉ earlier ++ here.reverse := fun member =>
    unclosed (whole ▸ List.mem_append_left _ member)
  -- The moves before that read are at least those to the current set, and at most all of them.
  have total : moves past = moves (earlier ++ here.reverse) +
      (BufferCall.read :: after.reverse).count .nextResult := by
    rw [moved, moves, live_of_open unclosed', ← List.count_append, ← whole]
  have within : moves (earlier ++ here.reverse) =
      index sets past + here.reverse.count .nextResult := by
    rw [moves, live_of_open unclosed', List.count_append, counted]
  unfold index at within ⊢
  omega

end BufferCall

namespace BufferedReader

variable {sets : List ResultSet} {past : List BufferCall} {b : BufferedReader}

/-- The position that so many reads lead to in a set of so many rows. -/
def place (rows : Nat) : Nat → Option Nat
  | 0 => none
  | reads + 1 => some (min reads rows)

/-- The reader over the sets is where the past calls have brought it. -/
structure Stands (sets : List ResultSet) (past : List BufferCall) (b : BufferedReader) : Prop where
  walks : b.walk.sets = sets
  index : b.walk.index = BufferCall.index sets past
  position : b.walk.position =
    place (BufferCall.current sets past).rows.length (BufferCall.reads sets past)
  closed : b.closed = decide (.close ∈ past)

namespace Stands

theorem current (stands : b.Stands sets past) : b.walk.current = BufferCall.current sets past := by
  rw [Walk.current, stands.walks, stands.index, BufferCall.current]

theorem row? (stands : b.Stands sets past) : b.walk.row? = BufferCall.row? sets past := by
  rw [Walk.row?, stands.position, stands.current, BufferCall.row?]
  cases BufferCall.reads sets past with
  | zero => rfl
  | succ reads =>
    change (BufferCall.current sets past).rows[min reads _]? = _
    rcases Nat.lt_or_ge reads (BufferCall.current sets past).rows.length with within | beyond
    · rw [Nat.min_eq_left (Nat.le_of_lt within)]
    · rw [Nat.min_eq_right beyond, List.getElem?_eq_none (Nat.le_refl _)]
      exact (List.getElem?_eq_none beyond).symm

theorem read (stands : b.Stands sets past) :
    b.walk.read = (decide (BufferCall.reads sets past < (BufferCall.current sets past).rows.length),
      { b.walk with
        position := place (BufferCall.current sets past).rows.length
          (BufferCall.reads sets past + 1) }) := by
  have rows : b.walk.rowCount = (BufferCall.current sets past).rows.length :=
    congrArg (·.rows.length) stands.current
  have follows : b.walk.following = min (BufferCall.reads sets past) (b.walk.rowCount + 1) := by
    rw [rows, Walk.following, stands.position]
    cases BufferCall.reads sets past with
    | zero => simp [place]
    | succ reads =>
      dsimp only [place]
      omega
  unfold Walk.read
  rw [follows, ← rows, place]
  split
  case isTrue within =>
    have fewer : BufferCall.reads sets past < b.walk.rowCount := by omega
    rw [decide_eq_true fewer, Nat.min_eq_left (by omega), Nat.min_eq_left (by omega)]
  case isFalse beyond =>
    have all : b.walk.rowCount ≤ BufferCall.reads sets past := by omega
    rw [decide_eq_false (by omega), Nat.min_eq_right all]

theorem position_le (stands : b.Stands sets past) {p : Nat} (stays : b.walk.position = some p) :
    p ≤ b.walk.rowCount := by
  rw [Walk.rowCount, stands.current]
  rw [stands.position] at stays
  cases reads : BufferCall.reads sets past with
  | zero =>
    rw [reads] at stays
    cases stays
  | succ n =>
    rw [reads] at stays
    cases stays
    exact Nat.min_le_right _ _

theorem nextResult (nonempty : sets ≠ []) (stands : b.Stands sets past) :
    b.walk.nextResult.1 = decide (BufferCall.moves past + 1 < sets.length) := by
  have some := List.length_pos_iff.2 nonempty
  rw [Walk.nextResult_found, stands.walks, stands.index, BufferCall.index]
  refine decide_eq_decide.2 ⟨fun more => ?_, fun more => ?_⟩ <;> omega

theorem value (stands : b.Stands sets past) (ordinal : Nat) :
    b.getValue ordinal = BufferCall.value sets past ordinal := by
  by_cases closed : .close ∈ past
  · simp [getValue, BufferCall.value, stands.closed, closed]
  rcases here : BufferCall.row? sets past with _ | row
  · simp [getValue, BufferCall.value, stands.closed, stands.row?, closed, here]
  · rcases there : row[ordinal]? with _ | v <;>
      simp [getValue, BufferCall.value, stands.closed, stands.row?, closed, here, there]

theorem answer (nonempty : sets ≠ []) (stands : b.Stands sets past) (call : BufferCall) :
    (b.perform call).1 = BufferCall.answer sets past call := by
  cases call with
  | read =>
    by_cases closed : .close ∈ past <;>
      simp [perform, BufferCall.answer, BufferedReader.read, move, stands.closed, stands.read,
        closed]
  | nextResult =>
    have found := stands.nextResult nonempty
    by_cases closed : .close ∈ past <;>
      simp [perform, BufferCall.answer, BufferedReader.nextResult, move, stands.closed, found,
        closed]
  | getValue ordinal => exact congrArg BufferAnswer.value (stands.value ordinal)
  | isNull ordinal =>
    exact congrArg (fun v => BufferAnswer.null (v.map Value.isNull)) (stands.value ordinal)
  | columnName ordinal =>
    rcases named : (BufferCall.current sets past).columns[ordinal]? with _ | name <;>
      simp [perform, BufferCall.answer, BufferedReader.columnName, stands.current, named]
  | rowCount => exact congrArg (fun set => BufferAnswer.count set.rows.length) stands.current
  | fieldCount => exact congrArg (fun set => BufferAnswer.count set.columns.length) stands.current
  | close => rfl

theorem of_live (stands : b.Stands sets past) {call : BufferCall} {b' : BufferedReader}
    (live : BufferCall.live (past ++ [call]) = BufferCall.live past) (walk : b'.walk = b.walk)
    (closed : b'.closed = decide (.close ∈ past ++ [call])) :
    b'.Stands sets (past ++ [call]) := by
  have index : BufferCall.index sets (past ++ [call]) = BufferCall.index sets past := by
    rw [BufferCall.index, BufferCall.moves, live, BufferCall.index, BufferCall.moves]
  have current : BufferCall.current sets (past ++ [call]) = BufferCall.current sets past := by
    rw [BufferCall.current, index, BufferCall.current]
  have reads : BufferCall.reads sets (past ++ [call]) = BufferCall.reads sets past := by
    rw [BufferCall.reads, index, live, BufferCall.reads]
  refine ⟨walk ▸ stands.walks, ?_, ?_, closed⟩
  · rw [walk, stands.index, index]
  · rw [walk, stands.position, current, reads]

theorem of_idle (stands : b.Stands sets past) {call : BufferCall} (unclosed : .close ∉ past)
    (goesOn : call ≠ .close) (still : call ≠ .read)
    (stays : BufferCall.index sets (past ++ [call]) = BufferCall.index sets past) :
    b.Stands sets (past ++ [call]) := by
  have reads := BufferCall.reads_concat unclosed goesOn stays
  rw [if_neg still, Nat.add_zero] at reads
  refine ⟨stands.walks, stands.index.trans stays.symm, ?_, ?_⟩
  · rw [stands.position, BufferCall.current, BufferCall.current, stays, reads]
  · rw [stands.closed]
    simpa [unclosed] using goesOn.symm

theorem perform_closed (stands : b.Stands sets past) (closed : .close ∈ past)
    (call : BufferCall) : (b.perform call).2 = b := by
  have shut : b.closed = true := stands.closed.trans (decide_eq_true closed)
  cases call with
  | read => simp [perform, BufferedReader.read, move, shut]
  | nextResult => simp [perform, BufferedReader.nextResult, move, shut]
  | close =>
    rw [perform, close, ← shut]
  | _ => rfl

theorem nextResult_refused (nonempty : sets ≠ []) (stands : b.Stands sets past)
    (last : ¬ BufferCall.moves past + 1 < sets.length) : b.nextResult.2 = b := by
  have found := stands.nextResult nonempty
  rw [decide_eq_false last] at found
  unfold BufferedReader.nextResult move
  split
  · rfl
  · exact congrArg (fun walk => { b with walk }) (Walk.nextResult_last _ found)

theorem perform (nonempty : sets ≠ []) (stands : b.Stands sets past) (call : BufferCall) :
    (b.perform call).2.Stands sets (past ++ [call]) := by
  by_cases closed : .close ∈ past
  · rw [stands.perform_closed closed call]
    exact stands.of_live (BufferCall.live_append_of_closed closed _) rfl
      (by simp [stands.closed, closed])
  have unclosed : b.closed = false := stands.closed.trans (decide_eq_false closed)
  cases call with
  | close =>
    exact stands.of_live (BufferCall.live_concat_close past) rfl
      (by simp [BufferedReader.perform, close])
  | read =>
    have stays : BufferCall.index sets (past ++ [.read]) = BufferCall.index sets past :=
      BufferCall.index_concat closed BufferCall.noConfusion BufferCall.noConfusion
    have reads : BufferCall.reads sets (past ++ [.read]) = BufferCall.reads sets past + 1 :=
      BufferCall.reads_concat closed BufferCall.noConfusion stays
    have moved : (b.perform .read).2 = { b with walk := b.walk.read.2 } := by
      simp [BufferedReader.perform, BufferedReader.read, move, unclosed]
    rw [moved, stands.read]
    refine ⟨stands.walks, stands.index.trans stays.symm, ?_, ?_⟩
    · rw [BufferCall.current, BufferCall.current, stays, reads]
    · simpa [closed] using unclosed
  | nextResult =>
    by_cases more : BufferCall.moves past + 1 < sets.length
    · obtain ⟨index, reads⟩ := BufferCall.reads_of_moved closed more
      have within : b.walk.index + 1 < b.walk.sets.length := by
        rw [stands.walks, stands.index, BufferCall.index]
        omega
      have moved : (b.perform .nextResult).2 =
          { b with walk := { b.walk with index := b.walk.index + 1, position := none } } := by
        simp [BufferedReader.perform, BufferedReader.nextResult, move, unclosed, Walk.nextResult,
          within]
      rw [moved]
      refine ⟨stands.walks, ?_, ?_, ?_⟩
      · rw [index, stands.index]
      · rw [reads, place]
      · simpa [closed] using unclosed
    · have same : (b.perform .nextResult).2 = b := stands.nextResult_refused nonempty more
      rw [same]
      exact stands.of_idle closed BufferCall.noConfusion BufferCall.noConfusion
        (BufferCall.index_of_refused closed more)
  | _ =>
    exact stands.of_idle closed BufferCall.noConfusion BufferCall.noConfusion
      (BufferCall.index_concat closed BufferCall.noConfusion BufferCall.noConfusion)

theorem run (nonempty : sets ≠ []) (stands : b.Stands sets past) (calls : List BufferCall) :
    (b.run calls).Stands sets (past ++ calls) := by
  induction calls generalizing past b with
  | nil => rwa [List.append_nil]
  | cons call rest ih =>
    have after := ih (stands.perform nonempty call)
    rwa [List.append_assoc] at after

end Stands

theorem stands_fresh (fresh : b.walk = { sets }) (unclosed : b.closed = false) :
    b.Stands sets [] := by
  refine ⟨by rw [fresh], ?_, ?_, unclosed⟩
  · rw [fresh, BufferCall.index]
    exact (Nat.zero_min _).symm
  · rw [fresh, BufferCall.reads, BufferCall.index, show BufferCall.moves [] = 0 from rfl,
      Nat.zero_min]
    rfl

/-- The latest read in the current set found a row. -/
def LatestFound (b : BufferedReader) (sets : List ResultSet) (past : List BufferCall) : Prop :=
  ∃ before after, past = before ++ .read :: after ∧ .read ∉ after ∧
    BufferCall.index sets before = BufferCall.index sets past ∧ (b.run before).read.1 = .ok true

/-- The reader answers as the calls before tell. It has a value exactly in a row, at an ordinal of a
field, as long as it is not closed. Once it is closed no call changes it, asking for a set after the
last one leaves it where it is, and it never is further than after the last row. -/
structure FollowsHistory (b : BufferedReader) (sets : List ResultSet) : Prop where
  answers : ∀ past call, ((b.run past).perform call).1 = BufferCall.answer sets past call
  getValue_isOk : ∀ past ordinal, ((b.run past).getValue ordinal).isOk = true ↔
    .close ∉ past ∧ b.LatestFound sets past ∧ ordinal < (b.run past).walk.fieldCount
  closed : ∀ past call, .close ∈ past → ((b.run past).perform call).2 = b.run past
  refused : ∀ past, ¬ BufferCall.moves past + 1 < sets.length →
    ((b.run past).perform .nextResult).2 = b.run past
  position_le : ∀ past p, (b.run past).walk.position = some p → p ≤ (b.run past).walk.rowCount

theorem latestFound_iff (along : ∀ past, (b.run past).Stands sets past) (nonempty : sets ≠ [])
    (unclosed : .close ∉ past) :
    b.LatestFound sets past ↔ (BufferCall.row? sets past).isSome = true := by
  have found : ∀ before, .close ∉ before → ((b.run before).read.1 = .ok true ↔
      BufferCall.reads sets before < (BufferCall.current sets before).rows.length) := by
    intro before unclosed
    have answers := (along before).answer nonempty .read
    unfold perform BufferCall.answer at answers
    rw [BufferAnswer.moved.inj answers, if_neg unclosed, Except.ok.injEq, decide_eq_true_eq]
  have rows : (BufferCall.row? sets past).isSome = true ↔
      ∃ n, BufferCall.reads sets past = n + 1 ∧ n < (BufferCall.current sets past).rows.length := by
    unfold BufferCall.row?
    cases BufferCall.reads sets past with
    | zero => simp
    | succ n => simp
  rw [rows]
  constructor
  · rintro ⟨before, after, rfl, last, same, read⟩
    have unclosed' : .close ∉ before := fun member => unclosed (List.mem_append_left _ member)
    refine ⟨_, BufferCall.reads_of_split unclosed last same, ?_⟩
    rw [BufferCall.current, ← same]
    exact (found before unclosed').1 read
  · rintro ⟨n, reads, within⟩
    have some : 0 < BufferCall.reads sets past := reads ▸ Nat.succ_pos n
    obtain ⟨before, after, whole, last, same⟩ := BufferCall.exists_latest_read unclosed some
    refine ⟨before, after, whole, last, same, ?_⟩
    subst whole
    have unclosed' : .close ∉ before := fun member => unclosed (List.mem_append_left _ member)
    have counted := BufferCall.reads_of_split unclosed last same
    rw [found before unclosed', BufferCall.current, same]
    unfold BufferCall.current at within
    omega

theorem followsHistory (nonempty : sets ≠ []) (rectangular : ∀ set ∈ sets, set.Rectangular)
    (fresh : b.walk = { sets }) (unclosed : b.closed = false) : b.FollowsHistory sets := by
  have along : ∀ past, (b.run past).Stands sets past := (stands_fresh fresh unclosed).run nonempty
  refine ⟨fun past => (along past).answer nonempty, fun past ordinal => ?_,
    fun past call closed => (along past).perform_closed closed call,
    fun past last => (along past).nextResult_refused nonempty last,
    fun past p => (along past).position_le⟩
  have stands := along past
  rw [stands.value, BufferCall.value]
  by_cases closed : .close ∈ past
  · rw [if_pos closed]
    exact iff_of_false Bool.false_ne_true fun holds => holds.1 closed
  rw [if_neg closed, latestFound_iff along nonempty closed]
  rcases current : BufferCall.row? sets past with _ | row
  · exact iff_of_false Bool.false_ne_true fun holds => Bool.false_ne_true holds.2.1
  have wide : row.length = (b.run past).walk.fieldCount := by
    have all : ∀ set ∈ (b.run past).walk.sets, set.Rectangular := stands.walks ▸ rectangular
    exact Walk.rectangular_current all row (Walk.mem_of_row? (stands.row?.trans current))
  dsimp only
  rw [← wide]
  by_cases within : ordinal < row.length
  · rw [List.getElem?_eq_getElem within]
    exact iff_of_true rfl ⟨closed, rfl, within⟩
  · rw [List.getElem?_eq_none (Nat.le_of_not_lt within)]
    exact iff_of_false Bool.false_ne_true fun holds => within holds.2.2

end BufferedReader

/-- What an attempt gives if it succeeds. -/
def Attempt.Gives (m : Attempt σ α) (post : α → Prop) : Prop :=
  ∀ s t a, m.observe s = (.ok a, t) → post a

namespace Attempt.Gives

variable {m : Attempt σ α} {post : α → Prop}

theorem pure {a : α} (holds : post a) : Gives (pure a : Attempt σ α) post := by
  intro s t a' ends
  cases ends
  exact holds

theorem bind {f : α → Attempt σ β} {next : β → Prop} (here : Gives m post)
    (rest : ∀ a, post a → Gives (f a) next) : Gives (m >>= f) next := by
  intro s u b ends
  obtain ⟨a, t, first, second⟩ := Attempt.ok_of_bind_ok ends
  exact rest a (here s t a first) t u b second

theorem after {f : α → Attempt σ β} {next : β → Prop} (rest : ∀ a, Gives (f a) next) :
    Gives (m >>= f) next := by
  have any : Gives m fun _ => True := fun _ _ _ _ => trivial
  exact any.bind fun a _ => rest a

theorem gather {step : Attempt σ (Option α)} (each : Gives step fun found => ∀ a ∈ found, post a)
    (n : Nat) : Gives (Cursor.gather step n) fun found => ∀ a ∈ found, post a := by
  induction n with
  | zero =>
    intro s t found ends
    cases ends
  | succ n ih =>
    unfold Cursor.gather
    refine each.bind fun found holds => ?_
    cases found with
    | none => exact .pure (by simp)
    | some a =>
      exact ih.bind fun rest others => .pure (List.forall_mem_cons.2 ⟨holds a rfl, others⟩)

end Attempt.Gives

namespace Cursor

variable [Driver σ] {c : Cursor} {mode : Mode}

theorem gives_checkedRow (detailed : Bool) (resolved : List Resolved) :
    Attempt.Gives (c.checkedRow detailed resolved : Attempt σ _)
      fun cells => cells.length = resolved.length := by
  induction resolved with
  | nil => exact .pure rfl
  | cons column rest ih =>
    unfold checkedRow
    exact .after fun v => .after fun _ => ih.bind fun cells wide =>
      .pure (congrArg (· + 1) wide)

theorem gives_plainRow (ordinals : List Nat) :
    Attempt.Gives (c.plainRow ordinals : Attempt σ _)
      fun cells => cells.length = ordinals.length := by
  induction ordinals with
  | nil => exact .pure rfl
  | cons ordinal rest ih =>
    unfold plainRow
    exact .after fun v => ih.bind fun cells wide => .pure (congrArg (· + 1) wide)

theorem gives_plainNames (ordinals : List Nat) :
    Attempt.Gives (c.plainNames ordinals : Attempt σ _)
      fun names => names.length = ordinals.length := by
  induction ordinals with
  | nil => exact .pure rfl
  | cons ordinal rest ih =>
    unfold plainNames
    exact .after fun name => ih.bind fun names wide => .pure (congrArg (· + 1) wide)

theorem gives_rows {row : Attempt σ (List Value)} {width : Nat}
    (wide : Attempt.Gives row fun cells => cells.length = width) :
    Attempt.Gives (c.rows mode row) fun rows => ∀ row ∈ rows, row.length = width := by
  unfold rows
  refine .after fun bound => .gather (.after fun found => ?_) _
  split
  · exact wide.bind fun cells same => .pure (by simpa using same)
  · exact .pure (by simp)

theorem gives_firstSet (columns : List ReaderColumn) (detailed : Bool) :
    Attempt.Gives (c.firstSet mode columns detailed : Attempt σ _) ResultSet.Rectangular := by
  unfold firstSet
  refine .after fun fields => .after fun ordinals => .after fun resolved => ?_
  refine (gives_rows (gives_checkedRow detailed resolved)).bind fun rows wide => .pure ?_
  intro row member
  rw [wide row member, List.length_map]

theorem gives_laterSet :
    Attempt.Gives (c.laterSet mode : Attempt σ _) fun found =>
      ∀ set ∈ found, ResultSet.Rectangular set := by
  unfold laterSet
  refine .after fun found => ?_
  split
  · refine .after fun _ => .after fun fields => ?_
    refine (gives_plainNames _).bind fun names named => ?_
    refine (gives_rows (gives_plainRow _)).bind fun rows wide => .pure ?_
    rintro _ ⟨⟩ row member
    rw [wide row member, named]
  · exact .pure (by simp)

theorem gives_drain (columns : List ReaderColumn) (detailed : Bool) :
    Attempt.Gives (c.drain mode columns detailed : Attempt σ _) fun sets =>
      sets ≠ [] ∧ ∀ set ∈ sets, set.Rectangular := by
  unfold drain
  refine (gives_firstSet columns detailed).bind fun first rectangular => .after fun bound => ?_
  refine (Attempt.Gives.gather gives_laterSet _).bind fun later others => .after fun _ => .pure ?_
  exact ⟨List.cons_ne_nil _ _, List.forall_mem_cons.2 ⟨rectangular, others⟩⟩

/-- A loaded reader answers as the calls before tell, over sets with rows as wide as they are. -/
theorem load_followsHistory {columns : List ReaderColumn} {detailed : Bool}
    {start loaded : Session σ} {b : BufferedReader}
    (loads : (c.load mode columns detailed).observe start = (.ok b, loaded)) :
    ∃ sets, b.walk = { sets } ∧ sets ≠ [] ∧ (∀ set ∈ sets, set.Rectangular) ∧
      b.FollowsHistory sets := by
  obtain ⟨sets, drained, drains, walk, -, unclosed⟩ := load_ok loads
  obtain ⟨nonempty, rectangular⟩ := gives_drain columns detailed start drained sets drains
  exact ⟨sets, walk, nonempty, rectangular,
    BufferedReader.followsHistory nonempty rectangular walk unclosed⟩

/-- Two sets, the second one without rows. -/
theorem load_followsHistory_scripted :
    let native : List ResultSet := [⟨["id", "name"], [[.int 1, .text "a"], [.int 2, .null]]⟩,
      ⟨["count"], []⟩]
    let columns : List ReaderColumn := [⟨some "name", true, none⟩]
    let c : Cursor := ⟨⟨0⟩, 0⟩
    let start : Session Script := { scene := ⟨{ cursors := [⟨{ sets := native }, 3⟩] }, none⟩ }
    ∃ b loaded, (c.load .blocking columns false).observe start = (.ok b, loaded) ∧
      ∃ sets, b.walk = { sets } ∧ sets ≠ [] ∧ (∀ set ∈ sets, set.Rectangular) ∧
        b.FollowsHistory sets := by
  intro native columns c start
  have ends : ((c.load .blocking columns false).observe start).1.isOk = true := by
    decide +kernel +zetaReduce
  rcases loads : (c.load .blocking columns false).observe start with ⟨failure | b, loaded⟩
  · rw [loads] at ends
    cases ends
  · exact ⟨b, loaded, rfl, load_followsHistory loads⟩

end Cursor

end SqlExecution
