import SqlExecution.Proofs.Buffering
import SqlExecution.Proofs.DeclaredColumns

/-! What loading a cursor checks. The declared columns are looked for first, before any row is read,
and then every cell is checked as it is read. Loading succeeds if nothing is found wrong, and
otherwise it fails with what is found wrong first. The cursor is closed in any case. -/

namespace SqlExecution

variable {σ α β : Type}

/-- What is left of the current set. -/
def Walk.ahead (w : Walk) : ResultSet := ⟨w.current.columns, w.left⟩

/-- How an attempt ends where the cursor is at the walk, and where it leaves it. -/
def Attempt.Ends (shows : Walk → Scene σ → Prop) (w : Walk) (m : Attempt σ α)
    (post : Outcome α → Walk → Prop) : Prop :=
  ∀ s, shows w s.scene →
    ∃ o after t, m.observe s = (o, t) ∧ shows after t.scene ∧ post o after

namespace Attempt.Ends

variable {shows : Walk → Scene σ → Prop} {w : Walk} {m : Attempt σ α}
  {post : Outcome α → Walk → Prop}

theorem pure {a : α} (holds : post (.ok a) w) : Ends shows w (pure a) post :=
  fun s stands => ⟨_, w, s, rfl, stands, holds⟩

theorem throw_bind {failure : Failure} {f : α → Attempt σ β} {next : Outcome β → Walk → Prop}
    (holds : next (.error failure) w) : Ends shows w (MonadExcept.throw failure >>= f) next :=
  fun s stands => ⟨_, w, s, rfl, stands, holds⟩

theorem bind {f : α → Attempt σ β} {next : Outcome β → Walk → Prop} (here : Ends shows w m post)
    (ok : ∀ a after, post (.ok a) after → Ends shows after (f a) next)
    (error : ∀ failure after, post (.error failure) after → next (.error failure) after) :
    Ends shows w (m >>= f) next := by
  intro s stands
  obtain ⟨o, after, t, first, stands, holds⟩ := here s stands
  cases o with
  | ok a =>
    obtain ⟨o, last, u, second, stands, holds⟩ := ok a after holds t stands
    exact ⟨o, last, u, (Attempt.observe_bind_ok first f).trans second, stands, holds⟩
  | error failure =>
    exact ⟨_, after, t, Attempt.observe_bind_error first f, stands, error failure after holds⟩

theorem bind_of_gives {f : α → Attempt σ β} {next : Outcome β → Walk → Prop} {gives : α → Prop}
    {after : Walk} (here : Ends shows w m fun o last => (∃ a, o = .ok a ∧ gives a) ∧ last = after)
    (rest : ∀ a, gives a → Ends shows after (f a) next) : Ends shows w (m >>= f) next := by
  refine here.bind (fun b last holds => ?_) fun failure last holds => ?_
  · obtain ⟨⟨_, same, given⟩, rfl⟩ := holds
    cases same
    exact rest b given
  · obtain ⟨⟨_, same, -⟩, -⟩ := holds
    cases same

theorem bind_ok {f : α → Attempt σ β} {next : Outcome β → Walk → Prop} {a : α} {after : Walk}
    (here : Ends shows w m fun o last => o = .ok a ∧ last = after)
    (rest : Ends shows after (f a) next) : Ends shows w (m >>= f) next := by
  refine here.bind (fun b last holds => ?_) fun failure last holds => nomatch holds.1
  obtain ⟨same, rfl⟩ := holds
  cases same
  exact rest

theorem lift {m : Engine σ α} {a : α} (gives : ∀ s, shows w s.scene →
    ∃ t, m s = (a, t) ∧ shows w t.scene) :
    Ends shows w (Attempt.lift m) fun o after => o = .ok a ∧ after = w := by
  intro s stands
  obtain ⟨t, ends, stands⟩ := gives s stands
  refine ⟨.ok a, w, t, ?_, stands, rfl, rfl⟩
  rw [observe_lift, Engine.map_apply, ends]

theorem call {note : NativeCall} {mode : Mode} {d : Dual σ α} {a : α} {after : Walk}
    (acts : ∀ scene, shows w scene →
      ∃ moved, d.perform mode scene = (.ok a, moved) ∧ shows after moved) :
    Ends shows w (Attempt.call note mode d) fun o last => o = .ok a ∧ last = after := by
  intro s stands
  obtain ⟨moved, performs, stands⟩ := acts s.scene stands
  obtain ⟨t, calls, rfl⟩ := Engine.call_apply note performs
  exact ⟨.ok a, after, t, calls, stands, rfl, rfl⟩

theorem callPlain {note : NativeCall} {act : Act σ (Result α)} {a : α}
    (acts : ∀ scene, shows w scene → ∃ moved, act scene = (.ok a, moved) ∧ shows w moved) :
    Ends shows w (Attempt.callPlain note act) fun o after => o = .ok a ∧ after = w := by
  intro s stands
  obtain ⟨moved, performs, stands⟩ := acts s.scene stands
  obtain ⟨t, calls, rfl⟩ := callPlain_apply note performs
  exact ⟨.ok a, w, t, calls, stands, rfl, rfl⟩

theorem ofResult (r : Result α) :
    Ends shows w (Attempt.ofResult r) fun o after => o = .ofResult r ∧ after = w :=
  fun s stands => ⟨_, w, s, rfl, stands, rfl, rfl⟩

theorem trace (level : TraceLevel) (target message : String)
    (fields : List (String × TraceValue)) :
    Ends shows w (Attempt.trace level target message fields)
      fun o after => o = .ok () ∧ after = w := by
  refine .lift fun s stands => ?_
  obtain ⟨t, traces, -, scene⟩ := Engine.trace_apply level target message fields s
  exact ⟨t, traces, scene ▸ stands⟩

end Attempt.Ends

/-- A cursor over result sets whose calls all succeed, under a context that is not cancelled. It has
a name and in every row a cell for each of its fields, comes to its end as its driver announced, and
lets itself be closed. `shows` says which walk a scene has it at. -/
structure Cursor.Succeeds [Driver σ] (c : Cursor) (mode : Mode) (shows : Walk → Scene σ → Prop) :
    Prop where
  fieldCount {w : Walk} {scene : Scene σ} :
    shows w scene → Driver.fieldCount c scene.state = w.fieldCount
  columnName {w : Walk} {scene : Scene σ} {ordinal : Nat} {name : String} :
    shows w scene → w.current.columns[ordinal]? = some name →
      ∃ after, Driver.columnName c ordinal scene = (.ok name, after) ∧ shows w after
  getValue {w : Walk} {scene : Scene σ} {ordinal : Nat} {row : List Value} :
    shows w scene → w.row? = some row → ordinal < w.fieldCount →
      ∃ v after, row[ordinal]? = some v ∧ Driver.getValue c ordinal scene = (.ok v, after) ∧
        shows w after
  read {w : Walk} {scene : Scene σ} :
    shows w scene →
      ∃ after, (Driver.read c).perform mode scene = (.ok w.read.1, after) ∧ shows w.read.2 after
  nextResult {w : Walk} {scene : Scene σ} :
    shows w scene →
      ∃ after, (Driver.nextResult c).perform mode scene = (.ok w.nextResult.1, after) ∧
        shows w.nextResult.2 after
  announced {w : Walk} {scene : Scene σ} :
    shows w scene → w.left.length ≤ Driver.remaining c scene.state ∧
      w.later.length ≤ Driver.remaining c scene.state
  closes {w : Walk} {scene : Scene σ} :
    shows w scene → ((Driver.closeCursor c).perform mode scene).1 = .ok ()
  uncancelled {w : Walk} {scene : Scene σ} :
    shows w scene → mode = .async → scene.cancelled = none

namespace Cursor

/-- A call that asks for the name of a column. -/
def Tells (c : Cursor) (call : NativeCall) : Prop := ∃ ordinal, call = .columnName c ordinal

/-- How loading a set comes out. It succeeds exactly if the set has all columns and they accept all
cells. Otherwise it fails with the first thing that is wrong, and no row is read where a column is
missing. -/
structure Validates (c : Cursor) (mode : Mode) (set : ResultSet) (columns : List ReaderColumn)
    (detailed : Bool) (start : Session σ) (loaded : Outcome α × Session σ) : Prop where
  isOk_iff : loaded.1.isOk = true ↔
    (∀ x ∈ columns.zipIdx, x.1.Resolves set.columns x.2) ∧
      ∀ cell ∈ set.cells columns, cell.Accepted
  judged : set.Judged columns detailed loaded.1
  unread : (¬ ∀ x ∈ columns.zipIdx, x.1.Resolves set.columns x.2) →
    ∃ told, start.Within c.Tells told ∧ told.Issues [.closeCursor c mode] loaded.2

variable [Driver σ] {c : Cursor} {mode : Mode} {shows : Walk → Scene σ → Prop} {w : Walk}

theorem ends_fieldCount (succeeds : c.Succeeds mode shows) :
    Attempt.Ends shows w (Attempt.lift c.fieldCount : Attempt σ Nat)
      fun o after => o = .ok w.fieldCount ∧ after = w :=
  .lift fun s stands => ⟨s, Prod.ext (succeeds.fieldCount stands) rfl, stands⟩

theorem ends_columnName (succeeds : c.Succeeds mode shows) {ordinal : Nat} {name : String}
    (named : w.current.columns[ordinal]? = some name) :
    Attempt.Ends shows w
      (Attempt.callPlain (.columnName c ordinal) (Driver.columnName c ordinal))
      fun o after => o = .ok name ∧ after = w :=
  .callPlain fun _ stands => succeeds.columnName stands named

theorem ends_getValue (succeeds : c.Succeeds mode shows) {ordinal : Nat} {row : List Value}
    (current : w.row? = some row) (within : ordinal < w.fieldCount) :
    Attempt.Ends shows w (Attempt.callPlain (.getValue c ordinal) (Driver.getValue c ordinal))
      fun o after => (∃ v, o = .ok v ∧ row[ordinal]? = some v) ∧ after = w := by
  intro s stands
  obtain ⟨v, moved, there, tells, stands⟩ := succeeds.getValue stands current within
  obtain ⟨t, calls, rfl⟩ := Attempt.callPlain_apply (.getValue c ordinal) tells
  exact ⟨.ok v, w, t, calls, stands, ⟨v, rfl, there⟩, rfl⟩

theorem ends_findColumn (succeeds : c.Succeeds mode shows) (name : String) :
    Attempt.Ends shows w (Attempt.lift (c.findColumn name (List.range w.fieldCount)))
      fun o after =>
        o = .ok ((List.range w.fieldCount).find? fun ordinal =>
          w.current.columns[ordinal]? = some name) ∧ after = w :=
  .lift fun _ stands => findColumn_apply succeeds.columnName name (fun _ => List.mem_range.1) stands

theorem ends_resolve (succeeds : c.Succeeds mode shows) (total : Nat)
    (columns : List ReaderColumn) (place : Nat) :
    Attempt.Ends shows w (c.resolve total w.fieldCount place columns) fun o after =>
      ReaderColumn.Found w.current.columns total place columns o ∧ after = w := by
  induction columns generalizing place with
  | nil => exact .pure ⟨.taken (.done place), rfl⟩
  | cons column rest ih =>
    have more : ∀ ordinal, column.TakesAt w.current.columns place ordinal →
        Attempt.Ends shows w (do
          return ordinal :: (← c.resolve total w.fieldCount (place + 1) rest)) fun o after =>
            ReaderColumn.Found w.current.columns total place (column :: rest) o ∧ after = w := by
      intro ordinal takes
      refine (ih (place + 1)).bind (fun ordinals after holds => ?_) fun failure after holds => ?_
      · obtain ⟨found, rfl⟩ := holds
        exact .pure ⟨found.cons_ok takes, rfl⟩
      · exact ⟨holds.1.cons_error takes.resolves, holds.2⟩
    have stop : ∀ e, column.unresolvedError total w.fieldCount = e →
        column.ordinal? w.current.columns place = none →
        ReaderColumn.Found w.current.columns total place (column :: rest) (.error (.error e)) := by
      rintro _ rfl none
      exact .of_unresolved (by simp [ReaderColumn.resolves_iff, none])
    unfold resolve
    rcases named : column.name with _ | name
    · dsimp only
      split
      case isTrue within =>
        exact more place (by simpa [ReaderColumn.TakesAt, named, Walk.fieldCount] using within)
      case isFalse beyond =>
        refine .throw_bind ⟨stop _ (by simp [ReaderColumn.unresolvedError, named]) ?_, rfl⟩
        simpa [ReaderColumn.ordinal?, named, Walk.fieldCount] using beyond
    · dsimp only
      refine (ends_findColumn succeeds name).bind_ok ?_
      have looked : column.ordinal? w.current.columns place =
          (List.range w.fieldCount).find? fun ordinal =>
            w.current.columns[ordinal]? = some name := by
        rw [ReaderColumn.ordinal?, named]
        rfl
      rw [← looked]
      rcases found : column.ordinal? w.current.columns place with _ | ordinal
      · exact .throw_bind ⟨stop _ (by simp [ReaderColumn.unresolvedError, named]) found, rfl⟩
      · exact more ordinal (ReaderColumn.ordinal?_eq_some.1 found)

theorem ends_nameColumns (succeeds : c.Succeeds mode shows) {place : Nat}
    {columns : List ReaderColumn} {ordinals : List Nat}
    (take : ReaderColumn.Take w.current.columns place columns ordinals) :
    Attempt.Ends shows w (c.nameColumns (columns.zip ordinals)) fun o after =>
      o = .ok (ReaderColumn.resolution w.current.columns place columns) ∧ after = w := by
  induction take with
  | done => exact .pure ⟨rfl, rfl⟩
  | @column place ordinal column columns ordinals takes _ ih =>
    obtain ⟨name, titled⟩ := ReaderColumn.title_isSome takes
    have here : ReaderColumn.resolution w.current.columns place (column :: columns) =
        (column, ordinal, name) ::
          ReaderColumn.resolution w.current.columns (place + 1) columns := by
      simp [ReaderColumn.resolution, List.zipIdx_cons, ReaderColumn.ordinal?_eq_some.2 takes,
        titled]
    have more : Attempt.Ends shows w (do
        return (column, ordinal, name) :: (← c.nameColumns (columns.zip ordinals))) fun o after =>
          o = .ok (ReaderColumn.resolution w.current.columns place (column :: columns)) ∧
            after = w := by
      rw [here]
      exact ih.bind_ok (.pure ⟨rfl, rfl⟩)
    rw [List.zip_cons_cons]
    unfold nameColumns
    unfold ReaderColumn.title at titled
    rcases named : column.name with _ | declared
    · rw [named, Option.none_or] at titled
      exact (ends_columnName succeeds titled).bind_ok more
    · rw [named, Option.some_or] at titled
      cases titled
      exact more

theorem ends_checkedRow (succeeds : c.Succeeds mode shows) (detailed : Bool)
    {row : List Value} (current : w.row? = some row) {resolved : List Resolved}
    (within : ∀ column ∈ resolved, column.2.1 < w.fieldCount) :
    Attempt.Ends shows w (c.checkedRow detailed resolved) fun o after =>
      Cell.Judged detailed (Cell.ofRow resolved row) o ∧ after = w := by
  induction resolved with
  | nil => exact .pure ⟨.passed (by simp [Cell.ofRow]), rfl⟩
  | cons resolution rest ih =>
    obtain ⟨column, ordinal, name⟩ := resolution
    obtain ⟨here, others⟩ := List.forall_mem_cons.1 within
    unfold checkedRow
    refine (ends_getValue succeeds current here).bind_of_gives fun v there => ?_
    have split : Cell.ofRow ((column, ordinal, name) :: rest) row =
        [⟨column, ordinal, name, v⟩] ++ Cell.ofRow rest row := by
      simp [Cell.ofRow, there]
    rw [split]
    have judged := Cell.judged_check detailed ⟨column, ordinal, name, v⟩
    refine (Attempt.Ends.ofResult _).bind (fun _ after holds => ?_) fun failure after holds => ?_
    · obtain ⟨checked, rfl⟩ := holds
      rw [← checked] at judged
      refine (ih others).bind (fun cells after holds => ?_) fun failure after holds => ?_
      · obtain ⟨more, rfl⟩ := holds
        exact .pure ⟨judged.append_ok (more.map _), rfl⟩
      · exact ⟨judged.append_ok holds.1, holds.2⟩
    · obtain ⟨checked, rfl⟩ := holds
      rw [← checked] at judged
      exact ⟨judged.append_error _, rfl⟩

theorem ends_plainNames (succeeds : c.Succeeds mode shows) {ordinals : List Nat}
    (within : ∀ ordinal ∈ ordinals, ordinal < w.fieldCount) :
    Attempt.Ends shows w (c.plainNames ordinals) fun o after => o.isOk = true ∧ after = w := by
  induction ordinals with
  | nil => exact .pure ⟨rfl, rfl⟩
  | cons ordinal rest ih =>
    obtain ⟨here, others⟩ := List.forall_mem_cons.1 within
    have there : w.current.columns[ordinal]? = some w.current.columns[ordinal] :=
      List.getElem?_eq_getElem here
    unfold plainNames
    refine (ends_columnName succeeds there).bind_ok ?_
    exact (ih others).bind (fun names after holds => .pure ⟨rfl, holds.2⟩)
      fun _ _ holds => absurd holds.1 Bool.false_ne_true

theorem ends_plainRow (succeeds : c.Succeeds mode shows) {row : List Value}
    (current : w.row? = some row) {ordinals : List Nat}
    (within : ∀ ordinal ∈ ordinals, ordinal < w.fieldCount) :
    Attempt.Ends shows w (c.plainRow ordinals) fun o after =>
      Cell.Judged true [] o ∧ after = w := by
  induction ordinals with
  | nil => exact .pure ⟨.passed (by simp), rfl⟩
  | cons ordinal rest ih =>
    obtain ⟨here, others⟩ := List.forall_mem_cons.1 within
    unfold plainRow
    refine (ends_getValue succeeds current here).bind_of_gives fun v _ => ?_
    refine (ih others).bind (fun cells after holds => ?_) fun _ _ holds => ?_
    · exact .pure ⟨holds.1.map _, holds.2⟩
    · exact ⟨holds.1.error, holds.2⟩

theorem ends_remaining (succeeds : c.Succeeds mode shows) :
    Attempt.Ends shows w (Attempt.lift c.remaining : Attempt σ Nat) fun o after =>
      (∃ bound, o = .ok bound ∧ w.left.length ≤ bound ∧ w.later.length ≤ bound) ∧ after = w :=
  fun s stands => ⟨_, w, s, rfl, stands, ⟨_, rfl, succeeds.announced stands⟩, rfl⟩

section

variable {row : Attempt σ (List Value)} {cells : List Value → List Cell} {detailed : Bool}
  {set : ResultSet}

theorem ends_nextRow (succeeds : c.Succeeds mode shows)
    (reads : ∀ w native, w.current = set → w.row? = some native →
      Attempt.Ends shows w row fun o after => Cell.Judged detailed (cells native) o ∧ after = w)
    (current : w.current = set) :
    Attempt.Ends shows w (do if ← c.read mode then return some (← row) else return none)
      fun o after =>
        (w.left = [] ∧ o = .ok none ∧ after = w.settled) ∨
        ∃ native, w.left = native :: after.left ∧ after = w.read.2 ∧
          Cell.Judged detailed (cells native) o ∧ o ≠ .ok none := by
  have moves : Attempt.Ends shows w (c.read mode) fun o after =>
      o = .ok w.read.1 ∧ after = w.read.2 := .call fun _ stands => succeeds.read stands
  refine moves.bind_ok ?_
  rcases found : w.read.1 with _ | _
  · obtain ⟨none, settled⟩ := Walk.left_of_read_none found
    exact .pure (.inl ⟨none, rfl, settled⟩)
  · obtain ⟨native, there, more⟩ := Walk.left_of_read found
    rw [if_pos rfl]
    refine (reads _ native ((Walk.current_read w).trans current) there).bind
      (fun values after holds => ?_) fun failure after holds => ?_
    · obtain ⟨judged, rfl⟩ := holds
      exact .pure (.inr ⟨native, more, rfl, judged.map _, by simp⟩)
    · obtain ⟨judged, rfl⟩ := holds
      exact .inr ⟨native, more, rfl, judged.error, by simp⟩

theorem ends_gather_rows (succeeds : c.Succeeds mode shows)
    (reads : ∀ w native, w.current = set → w.row? = some native →
      Attempt.Ends shows w row fun o after => Cell.Judged detailed (cells native) o ∧ after = w)
    (current : w.current = set) {n : Nat} (enough : w.left.length < n) :
    Attempt.Ends shows w (gather (do if ← c.read mode then return some (← row) else return none) n)
      fun o after => Cell.Judged detailed (w.left.flatMap cells) o ∧
        (o.isOk = true → after = w.settled) := by
  induction n generalizing w with
  | zero => omega
  | succ n ih =>
    unfold gather
    refine (ends_nextRow succeeds reads current).bind (fun found after holds => ?_)
      fun failure after holds => ?_
    · obtain ⟨none, same, rfl⟩ | ⟨native, more, rfl, judged, there⟩ := holds
      · cases same
        exact .pure ⟨by simpa [none] using .passed (by simp), fun _ => rfl⟩
      · rcases found with _ | values
        · exact absurd rfl there
        have enough' : w.read.2.left.length < n := by
          rw [more, List.length_cons] at enough
          omega
        rw [more, List.flatMap_cons]
        refine (ih ((Walk.current_read w).trans current) enough').bind
          (fun rest last holds => ?_) fun failure last holds => ?_
        · obtain ⟨others, settled⟩ := holds
          refine .pure ⟨judged.append_ok (others.map _), fun _ => ?_⟩
          rw [settled rfl, Walk.settled_read]
        · exact ⟨judged.append_ok holds.1, fun ok => absurd ok Bool.false_ne_true⟩
    · obtain ⟨-, same, -⟩ | ⟨native, more, -, judged, -⟩ := holds
      · cases same
      · rw [more, List.flatMap_cons]
        exact ⟨judged.append_error _, fun ok => absurd ok Bool.false_ne_true⟩

theorem ends_rows (succeeds : c.Succeeds mode shows)
    (reads : ∀ w native, w.current = set → w.row? = some native →
      Attempt.Ends shows w row fun o after => Cell.Judged detailed (cells native) o ∧ after = w)
    (current : w.current = set) :
    Attempt.Ends shows w (c.rows mode row) fun o after =>
      Cell.Judged detailed (w.left.flatMap cells) o ∧ (o.isOk = true → after = w.settled) := by
  unfold rows
  refine (ends_remaining succeeds).bind_of_gives fun bound enough => ?_
  exact ends_gather_rows succeeds reads current (Nat.lt_succ_of_le enough.1)

end

theorem ends_firstSet (succeeds : c.Succeeds mode shows) (columns : List ReaderColumn)
    (detailed : Bool) :
    Attempt.Ends shows w (c.firstSet mode columns detailed) fun o after =>
      w.ahead.Judged columns detailed o ∧ (o.isOk = true → after = w.settled) := by
  unfold firstSet
  refine (ends_fieldCount succeeds).bind_ok ?_
  refine (ends_resolve succeeds columns.length columns 0).bind (fun ordinals after holds => ?_)
    fun failure after holds => ?_
  · obtain ⟨⟨take⟩, rfl⟩ := holds
    refine (ends_nameColumns succeeds take).bind_ok ?_
    have reads : ∀ (w : Walk) native, w.current = after.current → w.row? = some native →
        Attempt.Ends shows w
          (c.checkedRow detailed (ReaderColumn.resolution after.current.columns 0 columns))
          fun o last => Cell.Judged detailed
            (Cell.ofRow (ReaderColumn.resolution after.current.columns 0 columns) native) o ∧
              last = w := by
      intro w native current there
      refine ends_checkedRow succeeds detailed there fun resolved member => ?_
      rw [Walk.fieldCount, current]
      exact ReaderColumn.resolution_within resolved member
    refine (ends_rows succeeds reads rfl).bind (fun rows last holds => ?_)
      fun failure last holds => ?_
    · exact .pure ⟨.resolved take.resolves (holds.1.map _), fun _ => holds.2 rfl⟩
    · exact ⟨.resolved take.resolves holds.1.error, fun ok => absurd ok Bool.false_ne_true⟩
  · obtain ⟨found, rfl⟩ := holds
    cases found with
    | missing first => exact ⟨.unresolved first, fun ok => absurd ok Bool.false_ne_true⟩

theorem ends_checkpoint (succeeds : c.Succeeds mode shows) :
    Attempt.Ends shows w (Attempt.checkpoint mode) fun o after => o = .ok () ∧ after = w := by
  intro s stands
  refine ⟨.ok (), w, s, ?_, stands, rfl, rfl⟩
  unfold Attempt.checkpoint
  rw [Attempt.observe_get_bind, Attempt.observe_ofOutcome]
  cases mode with
  | blocking => rfl
  | async => rw [succeeds.uncancelled stands rfl]; rfl

theorem ends_laterSet (succeeds : c.Succeeds mode shows) :
    Attempt.Ends shows w (c.laterSet mode) fun o after =>
      (o = .ok none ∧ w.later = []) ∨
      o.isOk = true ∧ o ≠ .ok none ∧ w.later = w.nextResult.2.current :: after.later := by
  have moves : Attempt.Ends shows w (c.nextResult mode) fun o after =>
      o = .ok w.nextResult.1 ∧ after = w.nextResult.2 :=
    .call fun _ stands => succeeds.nextResult stands
  unfold laterSet
  refine moves.bind_ok ?_
  rcases found : w.nextResult.1 with _ | _
  · exact .pure (.inl ⟨rfl, Walk.later_of_nextResult_none found⟩)
  have more := (Walk.later_of_nextResult found).1
  generalize w.nextResult.2 = v at *
  rw [if_pos rfl, more]
  refine (ends_checkpoint succeeds).bind_ok ?_
  refine (ends_fieldCount succeeds).bind_ok ?_
  refine (ends_plainNames succeeds fun ordinal => List.mem_range.1).bind
    (fun names after holds => ?_) fun _ _ holds => absurd holds.1 Bool.false_ne_true
  obtain ⟨-, rfl⟩ := holds
  have reads : ∀ (w : Walk) native, w.current = after.current → w.row? = some native →
      Attempt.Ends shows w (c.plainRow (List.range after.fieldCount)) fun o last =>
        Cell.Judged true [] o ∧ last = w := by
    intro w native current there
    refine ends_plainRow succeeds there fun ordinal member => ?_
    rw [Walk.fieldCount, current]
    exact List.mem_range.1 member
  refine (ends_rows succeeds reads rfl).bind (fun rows last holds => ?_)
    fun failure last holds => ?_
  · exact .pure (.inr ⟨rfl, by simp, by rw [holds.2 rfl, Walk.later_settled]⟩)
  · cases holds.1 with
    | refused first =>
      rw [List.flatMap_eq_nil_iff.2 fun _ _ => rfl] at first
      cases first

theorem ends_laterSets (succeeds : c.Succeeds mode shows) {n : Nat}
    (enough : w.later.length < n) :
    Attempt.Ends shows w (gather (c.laterSet mode) n) fun o _ => o.isOk = true := by
  induction n generalizing w with
  | zero => omega
  | succ n ih =>
    unfold gather
    refine (ends_laterSet succeeds).bind (fun found after holds => ?_) fun failure after holds => ?_
    · obtain ⟨same, -⟩ | ⟨-, there, more⟩ := holds
      · cases same
        exact .pure rfl
      · rcases found with _ | set
        · exact absurd rfl there
        have enough' : after.later.length < n := by
          rw [more, List.length_cons] at enough
          omega
        exact (ih enough').bind (fun rest last _ => .pure rfl)
          fun _ _ ok => absurd ok Bool.false_ne_true
    · obtain ⟨same, -⟩ | ⟨ok, -⟩ := holds
      · cases same
      · cases ok

theorem ends_drain (succeeds : c.Succeeds mode shows) (columns : List ReaderColumn)
    (detailed : Bool) :
    Attempt.Ends shows w (c.drain mode columns detailed) fun o _ =>
      w.ahead.Judged columns detailed o := by
  unfold drain
  refine (ends_firstSet succeeds columns detailed).bind (fun first after holds => ?_)
    fun failure after holds => holds.1.error
  obtain ⟨judged, settled⟩ := holds
  refine (ends_remaining succeeds).bind_of_gives fun bound enough => ?_
  refine (ends_laterSets succeeds (Nat.lt_succ_of_le enough.2)).bind (fun later last _ => ?_)
    fun _ _ ok => absurd ok Bool.false_ne_true
  exact (Attempt.Ends.trace _ _ _ _).bind_ok (.pure (judged.map _))

theorem load_judged (succeeds : c.Succeeds mode shows) (columns : List ReaderColumn)
    (detailed : Bool) {start : Session σ} (stands : shows w start.scene) :
    w.ahead.Judged columns detailed ((c.load mode columns detailed).observe start).1 := by
  obtain ⟨o, after, t, drains, stands, judged⟩ := ends_drain succeeds columns detailed start stands
  unfold load
  rw [Attempt.observe_outcome_bind, Attempt.observe_lift_bind, Attempt.observe_outcome_bind, drains]
  have closed : ((c.close mode).observe (c.recordsAffected t).2).1 = .ok () :=
    succeeds.closes stands
  rw [closed]
  cases o with
  | ok sets => exact judged.map _
  | error failure => exact judged.error

theorem drain_of_unresolved {columns : List ReaderColumn} {detailed : Bool} {s t : Session σ}
    {failure : Failure}
    (fails : (c.resolve columns.length (Driver.fieldCount c s.scene.state) 0 columns).observe s =
      (.error failure, t)) :
    (c.drain mode columns detailed).observe s = (.error failure, t) := by
  have first : (c.firstSet mode columns detailed).observe s = (.error failure, t) := by
    unfold firstSet
    rw [Attempt.observe_lift_bind]
    exact Attempt.observe_bind_error fails _
  exact Attempt.observe_bind_error first _

theorem load_unread (succeeds : c.Succeeds mode shows) {columns : List ReaderColumn}
    (detailed : Bool) {start : Session σ} (stands : shows w start.scene)
    (unresolved : ¬ ∀ x ∈ columns.zipIdx, x.1.Resolves w.current.columns x.2) :
    ∃ told, start.Within c.Tells told ∧
      told.Issues [.closeCursor c mode] ((c.load mode columns detailed).observe start).2 := by
  obtain ⟨o, after, told, ends, -, found, -⟩ :=
    ends_resolve succeeds columns.length columns 0 start stands
  have tells : start.Within c.Tells told := by
    have only : Attempt.Only c.Tells
        (c.resolve columns.length w.fieldCount 0 columns : Attempt σ (List Nat)) :=
      obeys_resolve (fun ordinal => Session.allows_within ⟨ordinal, rfl⟩) _ _ _ _
    have within := only start
    rwa [ends] at within
  have closes := c.issues_load_after_drain mode columns detailed start
  cases found with
  | taken take => exact absurd take.resolves unresolved
  | missing first =>
    rw [← succeeds.fieldCount stands] at ends
    rw [drain_of_unresolved ends] at closes
    exact ⟨told, tells, closes⟩

/-- Loading a cursor reads from it and then closes it once, whatever happens. -/
theorem load_validates (c : Cursor) (mode : Mode) (columns : List ReaderColumn) (detailed : Bool)
    (start : Session σ) :
    (∃ drained, start.Within c.Reads drained ∧
      drained.Issues [.closeCursor c mode] ((c.load mode columns detailed).observe start).2) ∧
    ∀ (shows : Walk → Scene σ → Prop) (w : Walk), c.Succeeds mode shows → shows w start.scene →
      c.Validates mode w.ahead columns detailed start
        ((c.load mode columns detailed).observe start) := by
  refine ⟨c.load_closes mode columns detailed start, fun shows w succeeds stands => ?_⟩
  have judged := load_judged succeeds columns detailed stands
  exact ⟨judged.isOk_iff, judged, load_unread succeeds detailed stands⟩

end Cursor

namespace Walk

theorem rowCount_le_totalRows (w : Walk) : w.rowCount ≤ ResultSet.totalRows w.sets := by
  have within : ∀ sets : List ResultSet, ∀ set ∈ sets,
      set.rows.length ≤ ResultSet.totalRows sets := by
    intro sets set member
    induction sets with
    | nil => cases member
    | cons first rest ih =>
      unfold ResultSet.totalRows
      rcases List.mem_cons.1 member with rfl | member
      · exact Nat.le_add_right _ _
      · exact Nat.le_add_left_of_le (ih member)
  unfold rowCount current
  rcases found : w.sets[w.index]? with _ | set
  · exact Nat.zero_le _
  · exact within w.sets set (List.mem_of_getElem? found)

theorem left_le_size (w : Walk) : w.left.length ≤ w.size := by
  have rows := w.rowCount_le_totalRows
  unfold left size
  rw [List.length_drop]
  unfold rowCount at rows
  omega

theorem later_le_size (w : Walk) : w.later.length ≤ w.size := by
  unfold later size
  rw [List.length_drop]
  omega

end Walk

/-- A cursor at the walk that can be read and closed, over rows as wide as their sets and under a
context that is not cancelled. -/
def Script.ShowsFreely (c : Cursor) (recordsAffected : Int64) (w : Walk) (scene : Scene Script) :
    Prop :=
  Script.Shows c recordsAffected w scene ∧
    (scene.state.connections c.connection).faults .closeCursor = [] ∧ scene.cancelled = none ∧
    ∀ set ∈ w.sets, set.Rectangular

theorem Script.succeeds (c : Cursor) (mode : Mode) (recordsAffected : Int64) :
    c.Succeeds mode (Script.ShowsFreely c recordsAffected) := by
  have presents : c.Presents mode _ (Script.ShowsFreely c recordsAffected) :=
    Script.presents_keeping c mode recordsAffected fun sets cancelled connections held => by
      rwa [sets, cancelled, connections]
  refine ⟨presents.fieldCount, presents.columnName, ?_, presents.read, presents.nextResult,
    ?_, ?_, fun shows _ => shows.2.2.1⟩
  · intro w scene ordinal row shows current within
    have wide := Walk.rectangular_current shows.2.2.2 row (Walk.mem_of_row? current)
    have there : row[ordinal]? = some (row.get ⟨ordinal, wide ▸ within⟩) :=
      List.getElem?_eq_getElem (wide ▸ within)
    obtain ⟨after, gives, shows⟩ := presents.getValue shows current there
    exact ⟨_, after, there, gives, shows⟩
  · intro w scene shows
    have remaining : Driver.remaining c scene.state = w.size :=
      congrArg (·.walk.size) shows.1.cursor_eq
    rw [remaining]
    exact ⟨w.left_le_size, w.later_le_size⟩
  · intro w scene shows
    exact congrArg Prod.fst (Script.perform_apply shows.2.1 mode (return .ok ()))

/-- A null where none may be and, further on, a text where a number is declared. -/
theorem Cursor.load_validates_scripted :
    let first : ResultSet :=
      ⟨["id", "name"], [[.int 1, .text "a"], [.null, .text "b"], [.text "c", .null]]⟩
    let sets : List ResultSet := [first, ⟨["count"], [[.bigInt 2]]⟩]
    let columns : List ReaderColumn := [⟨some "name", true, none⟩, ⟨some "id", false, some .int32⟩]
    let c : Cursor := ⟨⟨0⟩, 0⟩
    let start : Session Script := { scene := ⟨{ cursors := [⟨{ sets }, 3⟩] }, none⟩ }
    ∃ shows, c.Succeeds .async shows ∧ shows { sets } start.scene ∧
      ({ sets } : Walk).ahead = first ∧
      c.Validates .async first columns true start
        ((c.load .async columns true).observe start) := by
  intro first sets columns c start
  have shows : Script.ShowsFreely c 3 { sets } start.scene :=
    ⟨⟨rfl, fun _ _ => rfl⟩, rfl, rfl, by simp [sets, first, ResultSet.Rectangular]⟩
  have succeeds := Script.succeeds c .async 3
  exact ⟨_, succeeds, shows, rfl,
    (load_validates c .async columns true start).2 _ { sets } succeeds shows⟩

end SqlExecution
