import SqlExecution.Proofs.Calls
import SqlExecution.Proofs.ScriptedCursors

/-! The copy that loading a cursor makes. Reading the copy to its end gives what reading the cursor
would have given, the first set through the declared columns and every later set as it is. -/

namespace SqlExecution

variable {σ α β : Type}

theorem map_some_inj {l l' : List α} (same : l.map some = l'.map some) : l = l' :=
  (List.map_inj_right fun _ _ => Option.some.inj).1 same

namespace ReaderColumn

/-- The ordinal of the cells of a column declared at a place: the first with its name, or else the
place. -/
def TakesAt (names : List String) (place : Nat) (column : ReaderColumn) (ordinal : Nat) : Prop :=
  match column.name with
  | some name => names[ordinal]? = some name ∧ ∀ earlier < ordinal, names[earlier]? ≠ some name
  | none => ordinal = place ∧ place < names.length

/-- The ordinals of columns declared from a place on. -/
inductive Take (names : List String) : Nat → List ReaderColumn → List Nat → Prop where
  | done (place : Nat) : Take names place [] []
  | column {place ordinal : Nat} {column : ReaderColumn} {columns : List ReaderColumn}
      {ordinals : List Nat} :
      column.TakesAt names place ordinal → Take names (place + 1) columns ordinals →
      Take names place (column :: columns) (ordinal :: ordinals)

/-- The name that a column is declared with, or else the one that its cells have. -/
def title (names : List String) (column : ReaderColumn) (ordinal : Nat) : Option String :=
  column.name.or names[ordinal]?

variable {names : List String} {place ordinal : Nat} {column : ReaderColumn}

theorem TakesAt.within (takes : column.TakesAt names place ordinal) : ordinal < names.length := by
  unfold TakesAt at takes
  split at takes
  · exact (List.getElem?_eq_some_iff.1 takes.1).1
  · obtain ⟨rfl, within⟩ := takes
    exact within

theorem Take.within {columns : List ReaderColumn} {ordinals : List Nat}
    (take : Take names place columns ordinals) : ∀ ordinal ∈ ordinals, ordinal < names.length := by
  induction take with
  | done => simp
  | column takes _ ih => exact List.forall_mem_cons.2 ⟨takes.within, ih⟩

end ReaderColumn

/-- A copy of a set through declared columns: in their order, under their names, and in every row
the cells at their ordinals. -/
def ResultSet.Projects (set : ResultSet) (columns : List ReaderColumn) (copy : ResultSet) : Prop :=
  ∃ ordinals, ReaderColumn.Take set.columns 0 columns ordinals ∧
    copy.columns.map some = List.zipWith (ReaderColumn.title set.columns) columns ordinals ∧
    copy.rows.map (·.map some) = set.rows.map fun row => ordinals.map (row[·]?)

theorem ReaderColumn.Take.length_eq {names : List String} {place : Nat}
    {columns : List ReaderColumn} {ordinals : List Nat}
    (take : Take names place columns ordinals) : ordinals.length = columns.length := by
  induction take with
  | done => rfl
  | column _ _ ih => simp [ih]

theorem ResultSet.Projects.rectangular {set copy : ResultSet} {columns : List ReaderColumn}
    (projects : set.Projects columns copy) : copy.Rectangular := by
  obtain ⟨ordinals, take, names, rows⟩ := projects
  have width : copy.columns.length = ordinals.length := by
    have lengths := congrArg List.length names
    simpa [take.length_eq] using lengths
  intro row member
  have copied : row.map some ∈ set.rows.map fun native => ordinals.map (native[·]?) :=
    rows ▸ List.mem_map_of_mem member
  obtain ⟨native, -, cells⟩ := List.mem_map.1 copied
  have lengths := congrArg List.length cells
  rw [width]
  simpa using lengths.symm

theorem Attempt.callPlain_apply (note : NativeCall) {act : Act σ (Result α)} {s : Session σ} {a : α}
    {after : Scene σ} (acts : act s.scene = (.ok a, after)) :
    ∃ t, (Attempt.callPlain note act).observe s = (.ok a, t) ∧ t.scene = after := by
  obtain ⟨t, calls, scene⟩ := Engine.call_apply note acts
  refine ⟨t, ?_, scene⟩
  change (Outcome.ofResult (Engine.call note act s).1, (Engine.call note act s).2) = _
  rw [calls]
  rfl

/-- What an attempt gives where the cursor is at the walk, and where it leaves it, if the attempt
succeeds. -/
def Attempt.Finds (shows : Walk → Scene σ → Prop) (w : Walk) (m : Attempt σ α)
    (post : α → Walk → Prop) : Prop :=
  ∀ s t a, shows w s.scene → m.observe s = (.ok a, t) → ∃ after, shows after t.scene ∧ post a after

namespace Attempt.Finds

variable {shows : Walk → Scene σ → Prop} {w : Walk} {m : Attempt σ α} {post : α → Walk → Prop}

theorem pure {a : α} (holds : post a w) : Finds shows w (pure a) post := by
  intro s t a' stands ends
  cases ends
  exact ⟨w, stands, holds⟩

theorem throw (failure : Failure) : Finds shows w (throw failure) post := by
  intro s t a stands ends
  cases ends

theorem throw_bind (failure : Failure) (f : α → Attempt σ β) {next : β → Walk → Prop} :
    Finds shows w (MonadExcept.throw failure >>= f) next := by
  intro s t b stands ends
  cases ends

theorem bind {f : α → Attempt σ β} {next : β → Walk → Prop} (here : Finds shows w m post)
    (rest : ∀ a after, post a after → Finds shows after (f a) next) :
    Finds shows w (m >>= f) next := by
  intro s u b stands ends
  obtain ⟨a, t, first, second⟩ := Attempt.ok_of_bind_ok ends
  obtain ⟨after, stands, holds⟩ := here s t a stands first
  exact rest a after holds t u b stands second

theorem lift_of_scene {m : Engine σ α} (scene : ∀ s, (m s).2.scene = s.scene)
    (gives : ∀ s, shows w s.scene → post (m s).1 w) : Finds shows w (lift m) post := by
  intro s t a stands ends
  cases ends
  exact ⟨w, scene s ▸ stands, gives s stands⟩

theorem call {note : NativeCall} {mode : Mode} {d : Dual σ α} {a : α} {after : Walk}
    (acts : ∀ scene, shows w scene →
      ∃ moved, d.perform mode scene = (.ok a, moved) ∧ shows after moved) (holds : post a after) :
    Finds shows w (Attempt.call note mode d) post := by
  intro s t a' stands ends
  obtain ⟨moved, performs, stands⟩ := acts s.scene stands
  obtain ⟨u, calls, rfl⟩ := Engine.call_apply note performs
  cases calls.symm.trans ends
  exact ⟨after, stands, holds⟩

theorem callPlain {note : NativeCall} {act : Act σ (Result α)} {a : α}
    (acts : ∀ scene, shows w scene → ∃ moved, act scene = (.ok a, moved) ∧ shows w moved)
    (holds : post a w) : Finds shows w (Attempt.callPlain note act) post := by
  intro s t a' stands ends
  obtain ⟨moved, performs, stands⟩ := acts s.scene stands
  obtain ⟨u, calls, rfl⟩ := callPlain_apply note performs
  cases calls.symm.trans ends
  exact ⟨w, stands, holds⟩

theorem ofResult (r : Result α) :
    Finds shows w (Attempt.ofResult r) fun _ after => after = w := by
  intro s t a stands ends
  cases r <;> cases ends
  exact ⟨w, stands, rfl⟩

theorem mono {next : α → Walk → Prop} (here : Finds shows w m post)
    (weaker : ∀ a after, post a after → next a after) : Finds shows w m next := by
  intro s t a stands ends
  obtain ⟨after, stands, holds⟩ := here s t a stands ends
  exact ⟨after, stands, weaker a after holds⟩

theorem trace (level : TraceLevel) (target message : String)
    (fields : List (String × TraceValue)) :
    Finds shows w (Attempt.trace level target message fields) fun _ after => after = w := by
  refine .lift_of_scene (fun s => ?_) fun _ _ => rfl
  obtain ⟨t, traces, -, scene⟩ := Engine.trace_apply level target message fields s
  rw [traces, scene]

theorem checkpoint (mode : Mode) :
    Finds shows w (Attempt.checkpoint mode) fun _ after => after = w := by
  intro s t a stands ends
  unfold Attempt.checkpoint at ends
  rw [Attempt.observe_get_bind, Attempt.observe_ofOutcome] at ends
  obtain rfl : s = t := congrArg Prod.snd ends
  exact ⟨w, stands, rfl⟩

/-- Gathering ends when a step finds nothing more; `done` is what it gathers from a walk on. -/
theorem gather {step : Attempt σ (Option α)} (keeps : Walk → Prop)
    (done : Walk → List α → Walk → Prop)
    (each : ∀ w, keeps w → Finds shows w step fun found after =>
      match found with
      | none => done w [] after
      | some a => keeps after ∧ ∀ rest last, done after rest last → done w (a :: rest) last)
    (n : Nat) (kept : keeps w) : Finds shows w (Cursor.gather step n) (done w) := by
  induction n generalizing w with
  | zero => exact .throw _
  | succ n ih =>
    unfold Cursor.gather
    refine (each w kept).bind fun found after holds => ?_
    cases found with
    | none => exact .pure holds
    | some a =>
      obtain ⟨kept, more⟩ := holds
      exact (ih kept).bind fun rest last gathered => .pure (more rest last gathered)

end Attempt.Finds

namespace Cursor

variable [Driver σ] {c : Cursor} {mode : Mode} {affected : Walk → Int64}
  {shows : Walk → Scene σ → Prop} {w : Walk}

theorem finds_fieldCount (presents : c.Presents mode affected shows) :
    Attempt.Finds shows w (Attempt.lift c.fieldCount : Attempt σ Nat) fun fields after =>
      fields = w.fieldCount ∧ after = w :=
  .lift_of_scene (fun _ => rfl) fun _ stands => ⟨presents.fieldCount stands, rfl⟩

theorem finds_remaining :
    Attempt.Finds shows w (Attempt.lift c.remaining : Attempt σ Nat) fun _ after => after = w :=
  .lift_of_scene (fun _ => rfl) fun _ _ => rfl

theorem finds_columnName (presents : c.Presents mode affected shows) {ordinal : Nat} {name : String}
    (named : w.current.columns[ordinal]? = some name) :
    Attempt.Finds shows w (Attempt.callPlain (.columnName c ordinal) (Driver.columnName c ordinal))
      fun told after => told = name ∧ after = w :=
  .callPlain (fun _ stands => presents.columnName stands named) ⟨rfl, rfl⟩

theorem finds_getValue (presents : c.Presents mode affected shows) {ordinal : Nat}
    {row : List Value} {v : Value} (current : w.row? = some row) (there : row[ordinal]? = some v) :
    Attempt.Finds shows w (Attempt.callPlain (.getValue c ordinal) (Driver.getValue c ordinal))
      fun got after => got = v ∧ after = w :=
  .callPlain (fun _ stands => presents.getValue stands current there) ⟨rfl, rfl⟩

theorem finds_read (presents : c.Presents mode affected shows) :
    Attempt.Finds shows w (c.read mode) fun found after => found = w.read.1 ∧ after = w.read.2 :=
  .call (fun _ stands => presents.read stands) ⟨rfl, rfl⟩

theorem finds_nextResult (presents : c.Presents mode affected shows) :
    Attempt.Finds shows w (c.nextResult mode) fun found after =>
      found = w.nextResult.1 ∧ after = w.nextResult.2 :=
  .call (fun _ stands => presents.nextResult stands) ⟨rfl, rfl⟩

theorem findColumn_apply
    (tells : ∀ {w scene ordinal name}, shows w scene → w.current.columns[ordinal]? = some name →
      ∃ after, Driver.columnName c ordinal scene = (.ok name, after) ∧ shows w after)
    (name : String) {ordinals : List Nat} (within : ∀ ordinal ∈ ordinals, ordinal < w.fieldCount)
    {s : Session σ} (stands : shows w s.scene) :
    ∃ t, c.findColumn name ordinals s =
      (ordinals.find? fun ordinal => w.current.columns[ordinal]? = some name, t) ∧
        shows w t.scene := by
  induction ordinals generalizing s with
  | nil => exact ⟨s, rfl, stands⟩
  | cons ordinal rest ih =>
    obtain ⟨here, others⟩ := List.forall_mem_cons.1 within
    have named : w.current.columns[ordinal]? = some w.current.columns[ordinal] :=
      List.getElem?_eq_getElem here
    obtain ⟨after, told, stands⟩ := tells stands named
    obtain ⟨t, gives, rfl⟩ := Engine.call_apply (.columnName c ordinal) told
    unfold findColumn columnName
    rw [Engine.bind_apply, gives, List.find?_cons, named]
    dsimp only
    by_cases same : w.current.columns[ordinal] = name
    · rw [if_pos same]
      exact ⟨t, by simp [same], stands⟩
    · rw [if_neg same]
      obtain ⟨u, found, stands⟩ := ih others stands
      exact ⟨u, by simp [same, found], stands⟩

theorem finds_findColumn (presents : c.Presents mode affected shows) (name : String) :
    Attempt.Finds shows w (Attempt.lift (c.findColumn name (List.range w.fieldCount)))
      fun found after => after = w ∧ ∀ ordinal, found = some ordinal →
        w.current.columns[ordinal]? = some name ∧
          ∀ earlier < ordinal, w.current.columns[earlier]? ≠ some name := by
  intro s t found stands ends
  obtain ⟨u, finds, stands⟩ := findColumn_apply presents.columnName name
    (fun ordinal member => List.mem_range.1 member) stands
  have ends' : (.ok (c.findColumn name (List.range w.fieldCount) s).1,
      (c.findColumn name (List.range w.fieldCount) s).2) = ((.ok found : Outcome _), t) := ends
  rw [finds] at ends'
  cases ends'
  refine ⟨w, stands, rfl, fun ordinal found => ?_⟩
  obtain ⟨named, -, first⟩ := List.find?_range_eq_some.1 found
  exact ⟨by simpa using named, fun earlier before => by simpa using first earlier before⟩

theorem finds_resolve (presents : c.Presents mode affected shows) (total : Nat)
    (columns : List ReaderColumn) (place : Nat) :
    Attempt.Finds shows w (c.resolve total w.fieldCount place columns) fun ordinals after =>
      ReaderColumn.Take w.current.columns place columns ordinals ∧ after = w := by
  induction columns generalizing place with
  | nil => exact .pure ⟨.done place, rfl⟩
  | cons column rest ih =>
    have more : ∀ ordinal, column.TakesAt w.current.columns place ordinal →
        Attempt.Finds shows w (do
          return ordinal :: (← c.resolve total w.fieldCount (place + 1) rest)) fun ordinals after =>
            ReaderColumn.Take w.current.columns place (column :: rest) ordinals ∧ after = w := by
      intro ordinal takes
      refine (ih (place + 1)).bind fun ordinals after found => ?_
      obtain ⟨take, rfl⟩ := found
      exact .pure ⟨.column takes take, rfl⟩
    unfold resolve
    rcases named : column.name with _ | name
    · dsimp only
      split
      case isTrue within =>
        exact more place (by simpa [ReaderColumn.TakesAt, named, Walk.fieldCount] using within)
      case isFalse => exact .throw_bind _ _
    · dsimp only
      refine (finds_findColumn presents name).bind fun found after holds => ?_
      obtain ⟨rfl, first⟩ := holds
      cases found with
      | none => exact .throw_bind _ _
      | some ordinal =>
        exact more ordinal (by simpa [ReaderColumn.TakesAt, named] using first ordinal rfl)

theorem finds_nameColumns (presents : c.Presents mode affected shows) {place : Nat}
    {columns : List ReaderColumn} {ordinals : List Nat}
    (take : ReaderColumn.Take w.current.columns place columns ordinals) :
    Attempt.Finds shows w (c.nameColumns (columns.zip ordinals)) fun resolved after =>
      (resolved.map (·.2.1) = ordinals ∧
        resolved.map (some ·.2.2) =
          List.zipWith (ReaderColumn.title w.current.columns) columns ordinals) ∧ after = w := by
  induction take with
  | done => exact .pure ⟨⟨rfl, rfl⟩, rfl⟩
  | @column place ordinal column columns ordinals takes _ ih =>
    have more : ∀ name, some name = column.title w.current.columns ordinal →
        Attempt.Finds shows w (do
          return (column, ordinal, name) :: (← c.nameColumns (columns.zip ordinals)))
          fun resolved after =>
            (resolved.map (·.2.1) = ordinal :: ordinals ∧
              resolved.map (some ·.2.2) = column.title w.current.columns ordinal ::
                List.zipWith (ReaderColumn.title w.current.columns) columns ordinals) ∧
              after = w := by
      intro name titled
      refine ih.bind fun resolved after holds => ?_
      obtain ⟨⟨places, names⟩, rfl⟩ := holds
      exact .pure ⟨⟨congrArg (ordinal :: ·) places, List.cons_eq_cons.2 ⟨titled, names⟩⟩, rfl⟩
    rw [List.zip_cons_cons]
    unfold nameColumns
    rcases named : column.name with _ | name
    · have there : w.current.columns[ordinal]? = some (w.current.columns.get ⟨ordinal, takes.within⟩) :=
        List.getElem?_eq_getElem takes.within
      refine (finds_columnName presents there).bind fun name after told => ?_
      obtain ⟨rfl, rfl⟩ := told
      exact more _ (by simp [ReaderColumn.title, named, there])
    · exact more name (by simp [ReaderColumn.title, named])

theorem finds_checkedRow (presents : c.Presents mode affected shows) (detailed : Bool)
    {row : List Value} (current : w.row? = some row) {resolved : List Resolved}
    (within : ∀ column ∈ resolved, column.2.1 < row.length) :
    Attempt.Finds shows w (c.checkedRow detailed resolved) fun cells after =>
      cells.map some = (resolved.map (·.2.1)).map (row[·]?) ∧ after = w := by
  induction resolved with
  | nil => exact .pure ⟨rfl, rfl⟩
  | cons column rest ih =>
    obtain ⟨here, others⟩ := List.forall_mem_cons.1 within
    have there : row[column.2.1]? = some row[column.2.1] := List.getElem?_eq_getElem here
    unfold checkedRow
    refine (finds_getValue presents current there).bind fun v after got => ?_
    obtain ⟨rfl, rfl⟩ := got
    refine (Attempt.Finds.ofResult _).bind fun _ after same => ?_
    subst same
    refine (ih others).bind fun cells after holds => ?_
    obtain ⟨copied, rfl⟩ := holds
    exact .pure ⟨List.cons_eq_cons.2 ⟨there.symm, copied⟩, rfl⟩

theorem finds_plainRow (presents : c.Presents mode affected shows) {row : List Value}
    (current : w.row? = some row) {ordinals : List Nat}
    (within : ∀ ordinal ∈ ordinals, ordinal < row.length) :
    Attempt.Finds shows w (c.plainRow ordinals) fun cells after =>
      cells.map some = ordinals.map (row[·]?) ∧ after = w := by
  induction ordinals with
  | nil => exact .pure ⟨rfl, rfl⟩
  | cons ordinal rest ih =>
    obtain ⟨here, others⟩ := List.forall_mem_cons.1 within
    have there : row[ordinal]? = some row[ordinal] := List.getElem?_eq_getElem here
    unfold plainRow
    refine (finds_getValue presents current there).bind fun v after got => ?_
    obtain ⟨rfl, rfl⟩ := got
    refine (ih others).bind fun cells after holds => ?_
    obtain ⟨copied, rfl⟩ := holds
    exact .pure ⟨List.cons_eq_cons.2 ⟨there.symm, copied⟩, rfl⟩

theorem finds_plainNames (presents : c.Presents mode affected shows) {ordinals : List Nat}
    (within : ∀ ordinal ∈ ordinals, ordinal < w.fieldCount) :
    Attempt.Finds shows w (c.plainNames ordinals) fun names after =>
      names.map some = ordinals.map (w.current.columns[·]?) ∧ after = w := by
  induction ordinals with
  | nil => exact .pure ⟨rfl, rfl⟩
  | cons ordinal rest ih =>
    obtain ⟨here, others⟩ := List.forall_mem_cons.1 within
    have there : w.current.columns[ordinal]? = some w.current.columns[ordinal] :=
      List.getElem?_eq_getElem here
    unfold plainNames
    refine (finds_columnName presents there).bind fun name after told => ?_
    obtain ⟨rfl, rfl⟩ := told
    refine (ih others).bind fun names after holds => ?_
    obtain ⟨copied, rfl⟩ := holds
    exact .pure ⟨List.cons_eq_cons.2 ⟨there.symm, copied⟩, rfl⟩

theorem finds_rows (presents : c.Presents mode affected shows) {row : Attempt σ (List Value)}
    {copy : List Value → List (Option Value)} {set : ResultSet}
    (reads : ∀ w native, w.current = set → w.row? = some native →
      Attempt.Finds shows w row fun cells after => cells.map some = copy native ∧ after = w)
    (current : w.current = set) (fresh : w.position = none) :
    Attempt.Finds shows w (c.rows mode row) fun rows after =>
      rows.map (·.map some) = set.rows.map copy ∧ after = w.settled := by
  unfold rows
  refine finds_remaining.bind fun bound after same => ?_
  subst same
  rw [← current, ← Walk.left_of_fresh fresh]
  -- What is gathered from a walk on is what it has left of the set.
  refine Attempt.Finds.gather (fun w => w.current = set)
    (fun w (rows : List (List Value)) last =>
      rows.map (·.map some) = w.left.map copy ∧ last = w.settled)
    (fun w current => ?_) (bound + 1) current
  refine (finds_read presents).bind fun found after moved => ?_
  obtain ⟨rfl, rfl⟩ := moved
  rcases found : w.read.1 with _ | _
  · obtain ⟨none, settled⟩ := Walk.left_of_read_none found
    exact .pure ⟨by simp [none], settled⟩
  · obtain ⟨native, there, more⟩ := Walk.left_of_read found
    have current' : w.read.2.current = set := (Walk.current_read w).trans current
    refine (reads _ native current' there).bind fun cells after holds => ?_
    obtain ⟨copied, rfl⟩ := holds
    refine .pure ⟨current', fun rest last gathered => ?_⟩
    obtain ⟨others, rfl⟩ := gathered
    exact ⟨by simp [more, copied, others], Walk.settled_read w⟩

theorem finds_firstSet (presents : c.Presents mode affected shows) (columns : List ReaderColumn)
    (detailed : Bool) (rectangular : w.current.Rectangular) (fresh : w.position = none) :
    Attempt.Finds shows w (c.firstSet mode columns detailed) fun copy after =>
      w.current.Projects columns copy ∧ after = w.settled := by
  unfold firstSet
  refine (finds_fieldCount presents).bind fun fields after counted => ?_
  obtain ⟨rfl, rfl⟩ := counted
  refine (finds_resolve presents _ columns 0).bind fun ordinals after resolves => ?_
  obtain ⟨take, rfl⟩ := resolves
  refine (finds_nameColumns presents take).bind fun resolved after holds => ?_
  obtain ⟨⟨places, names⟩, rfl⟩ := holds
  have reads : ∀ (w : Walk) native, w.current = after.current → w.row? = some native →
      Attempt.Finds shows w (c.checkedRow detailed resolved) fun cells last =>
        cells.map some = ordinals.map (native[·]?) ∧ last = w := by
    intro w native current there
    have wide : native.length = after.current.columns.length :=
      rectangular native (current ▸ Walk.mem_of_row? there)
    rw [← places]
    refine finds_checkedRow presents detailed there fun column member => ?_
    rw [wide]
    exact take.within _ (places ▸ List.mem_map_of_mem member)
  refine (finds_rows presents reads rfl fresh).bind fun rows last holds => ?_
  obtain ⟨copied, rfl⟩ := holds
  exact .pure ⟨⟨ordinals, take, by simpa [Function.comp_def] using names, copied⟩, rfl⟩

theorem finds_laterSet (presents : c.Presents mode affected shows)
    (rectangular : ∀ set ∈ w.sets, set.Rectangular) :
    Attempt.Finds shows w (c.laterSet mode) fun found after =>
      match found with
      | none => w.nextResult.1 = false ∧ after = w
      | some set => w.nextResult.1 = true ∧ set = w.nextResult.2.current ∧
          after = w.nextResult.2.settled := by
  unfold laterSet
  refine (finds_nextResult presents).bind fun found after moved => ?_
  obtain ⟨rfl, rfl⟩ := moved
  rcases found : w.nextResult.1 with _ | _
  · exact .pure ⟨rfl, Walk.nextResult_last w found⟩
  have fresh := (Walk.later_of_nextResult found).2
  have rectangular' : w.nextResult.2.current.Rectangular :=
    Walk.rectangular_current (Walk.sets_nextResult w ▸ rectangular)
  generalize w.nextResult.2 = v at *
  rw [if_pos rfl]
  refine (Attempt.Finds.checkpoint mode).bind fun _ after same => ?_
  subst same
  refine (finds_fieldCount presents).bind fun fields v counted => ?_
  obtain ⟨rfl, rfl⟩ := counted
  refine (finds_plainNames presents fun ordinal => List.mem_range.1).bind fun names v told => ?_
  obtain ⟨named, rfl⟩ := told
  have reads : ∀ (w : Walk) native, w.current = v.current → w.row? = some native →
      Attempt.Finds shows w (c.plainRow (List.range v.fieldCount)) fun cells last =>
        cells.map some = native.map some ∧ last = w := by
    intro w native current there
    have wide : native.length = v.fieldCount :=
      rectangular' native (current ▸ Walk.mem_of_row? there)
    rw [← wide, ← map_getElem?_range]
    exact finds_plainRow presents there fun ordinal => List.mem_range.1
  refine (finds_rows presents reads rfl fresh).bind fun rows last holds => ?_
  obtain ⟨copied, rfl⟩ := holds
  refine .pure ⟨rfl, ?_, rfl⟩
  have names_eq : names = v.current.columns :=
    map_some_inj (named.trans (map_getElem?_range v.current.columns))
  have rows_eq : rows = v.current.rows := (List.map_inj_right fun _ _ => map_some_inj).1 copied
  rw [names_eq, rows_eq]

theorem finds_laterSets (presents : c.Presents mode affected shows)
    (rectangular : ∀ set ∈ w.sets, set.Rectangular) (settled : w.settled = w) (n : Nat) :
    Attempt.Finds shows w (gather (c.laterSet mode) n) fun later after =>
      later = w.later ∧ after = w.finished := by
  -- Between two sets the walk is after the last row of the first, where it does not read on.
  refine Attempt.Finds.gather
    (fun w => (∀ set ∈ w.sets, set.Rectangular) ∧ w.settled = w)
    (fun w later after => later = w.later ∧ after = w.finished)
    (fun w kept => ?_) n ⟨rectangular, settled⟩
  obtain ⟨rectangular, settled⟩ := kept
  refine (finds_laterSet presents rectangular).mono fun found after holds => ?_
  cases found with
  | none =>
    obtain ⟨last, rfl⟩ := holds
    have none := Walk.later_of_nextResult_none last
    exact ⟨none.symm, settled.symm.trans (Walk.finished_of_last none).symm⟩
  | some set =>
    obtain ⟨found, rfl, rfl⟩ := holds
    refine ⟨⟨Walk.sets_nextResult w ▸ rectangular, rfl⟩, fun rest last gathered => ?_⟩
    obtain ⟨rfl, rfl⟩ := gathered
    exact ⟨(Walk.later_of_nextResult found).1.symm, Walk.finished_nextResult found⟩

theorem finds_drain (presents : c.Presents mode affected shows) (columns : List ReaderColumn)
    (detailed : Bool) (rectangular : ∀ set ∈ w.sets, set.Rectangular) (fresh : w.position = none) :
    Attempt.Finds shows w (c.drain mode columns detailed) fun sets after =>
      (∃ copy, w.current.Projects columns copy ∧ sets = copy :: w.later) ∧
        after = w.finished := by
  unfold drain
  refine (finds_firstSet presents columns detailed (Walk.rectangular_current rectangular)
    fresh).bind fun copy after holds => ?_
  obtain ⟨projects, rfl⟩ := holds
  refine finds_remaining.bind fun bound after same => ?_
  subst same
  refine (finds_laterSets presents (w := w.settled) rectangular rfl _).bind
    fun later after holds => ?_
  obtain ⟨rfl, rfl⟩ := holds
  refine (Attempt.Finds.trace .debug Trace.readerTarget "Buffered data reader" _).bind
    fun _ after same => ?_
  subst same
  exact .pure ⟨⟨copy, projects, rfl⟩, rfl⟩

theorem load_ok {columns : List ReaderColumn} {detailed : Bool} {s u : Session σ}
    {b : BufferedReader} (loads : (c.load mode columns detailed).observe s = (.ok b, u)) :
    ∃ sets t, (c.drain mode columns detailed).observe s = (.ok sets, t) ∧ b.walk = { sets } ∧
      b.recordsAffected = Driver.recordsAffected c t.scene.state ∧ b.closed = false := by
  unfold load at loads
  rw [Attempt.observe_outcome_bind, Attempt.observe_lift_bind, Attempt.observe_outcome_bind] at loads
  rcases drained : (c.drain mode columns detailed).observe s with ⟨o, t⟩
  rw [drained] at loads
  obtain ⟨sets, _, ok, rest⟩ := Attempt.ok_of_bind_ok loads
  obtain ⟨_, _, _, made⟩ := Attempt.ok_of_bind_ok rest
  cases ok
  cases made
  exact ⟨sets, t, rfl, rfl, rfl, rfl⟩

/-- A loaded cursor: reading the copy to its end gives the sets that reading the cursor would have
given, the first through the declared columns, and it reports what the cursor would have in the
end. -/
theorem load_copies (presents : c.Presents mode affected shows) {sets : List ResultSet}
    (rectangular : ∀ set ∈ sets, set.Rectangular) {start loaded : Session σ}
    (fresh : shows { sets } start.scene) {columns : List ReaderColumn} {detailed : Bool}
    {b : BufferedReader} (loads : (c.load mode columns detailed).observe start = (.ok b, loaded))
    {native buffered : DataReader σ} (direct : native.cursor? = some (.native c))
    (copied : buffered.cursor? = some (.buffered b)) :
    ∃ first later copy native' ended,
      first :: later = (if sets = [] then [⟨[], []⟩] else sets) ∧
      native.Drains mode start (first :: later) native' ended ∧
      first.Projects columns copy ∧
      ∀ (mode' : Mode) (s : Session σ), ∃ buffered',
        buffered.Drains mode' s (copy :: later) buffered' s ∧
        (buffered'.recordsAffected s).1 = (native'.recordsAffected ended).1 := by
  obtain ⟨copies, drained, drains, walk, reported, unclosed⟩ := load_ok loads
  -- Loading and reading the cursor itself both leave it at the end of the last set.
  obtain ⟨after, standing, ⟨copy, projects, rfl⟩, rfl⟩ :=
    finds_drain presents columns detailed (w := { sets }) rectangular rfl start drained _ fresh drains
  obtain ⟨native', ended, reads, direct', standing'⟩ :=
    (DataReader.follows_native presents).drains (w := { sets }) rectangular rfl ⟨direct, fresh⟩
  refine ⟨_, _, copy, native', ended, ?_, reads, projects, fun mode' s => ?_⟩
  · cases sets <;> rfl
  · have rectangular' : ∀ set ∈ copy :: ({ sets } : Walk).later, set.Rectangular :=
      List.forall_mem_cons.2 ⟨projects.rectangular, fun set member =>
        rectangular set (List.mem_of_mem_drop member)⟩
    rw [show b = { b with walk := { sets := copy :: ({ sets } : Walk).later } } by rw [← walk]]
      at copied
    obtain ⟨buffered', _, reads', copied', rfl⟩ :=
      (DataReader.follows_buffered mode' unclosed s).drains rectangular' rfl ⟨copied, rfl⟩
    refine ⟨buffered', reads', ?_⟩
    rw [DataReader.recordsAffected_buffered copied', DataReader.recordsAffected_native direct',
      reported, presents.recordsAffected standing, presents.recordsAffected standing']

/-- A column by its name, one by its place and one whose name occurs twice; a set without columns and
another set come after the first. -/
theorem load_copies_scripted :
    let sets : List ResultSet := [
      ⟨["id", "name", "id"], [[.int 1, .text "a", .int 10], [.int 2, .null, .int 20]]⟩,
      ⟨[], []⟩, ⟨["count"], [[.bigInt 2]]⟩]
    let columns : List ReaderColumn :=
      [⟨some "name", true, none⟩, ⟨none, true, some .string⟩, ⟨some "id", false, some .int32⟩]
    let c : Cursor := ⟨⟨0⟩, 0⟩
    let start : Session Script := { scene := ⟨{ cursors := [⟨{ sets }, 3⟩] }, none⟩ }
    let reader : DataCursor → DataReader Script := fun cursor =>
      .ofBinding ⟨.blank ⟨0⟩ 0, cursor, none, ⟨0, none, ⟨0⟩, .reader, .unknown, .async⟩⟩
    ∃ b loaded, (c.load .async columns true).observe start = (.ok b, loaded) ∧
      ∃ first later copy native' ended,
        first :: later = sets ∧
        (reader (.native c)).Drains .async start (first :: later) native' ended ∧
        first.Projects columns copy ∧
        ∀ (mode' : Mode) (s : Session Script), ∃ buffered',
          (reader (.buffered b)).Drains mode' s (copy :: later) buffered' s ∧
          (buffered'.recordsAffected s).1 = (native'.recordsAffected ended).1 := by
  intro sets columns c start reader
  have ends : ((c.load .async columns true).observe start).1.isOk = true := by
    decide +kernel +zetaReduce
  have rectangular : ∀ set ∈ sets, set.Rectangular := by
    simp [sets, ResultSet.Rectangular]
  have fresh : Script.Shows c 3 { sets } start.scene := ⟨rfl, fun _ _ => rfl⟩
  rcases loads : (c.load .async columns true).observe start with ⟨failure | b, loaded⟩
  · rw [loads] at ends
    cases ends
  · exact ⟨b, loaded, rfl,
      load_copies (Script.presents c .async 3) rectangular fresh loads rfl rfl⟩

end Cursor

end SqlExecution
