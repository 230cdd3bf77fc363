import SqlExecution.Proofs.BufferedCopy

/-! What declared columns ask of a set: that it has the columns, and that they accept its cells. The
first column that is missing comes before any cell, and the cells come row after row. -/

namespace SqlExecution

variable {α β : Type}

namespace ReaderColumn

/-- The set has the column: one with its name, or else a field at its place. -/
def Resolves (names : List String) (place : Nat) (column : ReaderColumn) : Prop :=
  (∀ name ∈ column.name, name ∈ names) ∧ (column.name = none → place < names.length)

instance (names : List String) (place : Nat) (column : ReaderColumn) :
    Decidable (column.Resolves names place) := inferInstanceAs (Decidable (_ ∧ _))

/-- The error for a column that the set does not have. -/
def unresolvedError (columns fields : Nat) (column : ReaderColumn) : Error :=
  match column.name with
  | some name => missingError name
  | none => surplusError columns fields

/-- The ordinal of the cells of a column declared at a place. -/
def ordinal? (names : List String) (place : Nat) (column : ReaderColumn) : Option Nat :=
  match column.name with
  | some name => (List.range names.length).find? fun ordinal => names[ordinal]? = some name
  | none => if place < names.length then some place else none

/-- The columns declared from a place on, each with its ordinal and its title. -/
def resolution (names : List String) (place : Nat) (columns : List ReaderColumn) :
    List Cursor.Resolved :=
  (columns.zipIdx place).filterMap fun x => do
    let ordinal ← x.1.ordinal? names x.2
    let name ← x.1.title names ordinal
    return (x.1, ordinal, name)

/-- The column takes the value: a null if it is nullable, any other value if it is of the declared
type. A column without a type, or of objects, takes them all. -/
def Accepts (column : ReaderColumn) (v : Value) : Prop :=
  v.isNull = true ∧ column.nullable = true ∨
    v.isNull = false ∧
      (column.dbType = none ∨ column.dbType = some .object ∨ column.dbType = v.dbType)

instance (column : ReaderColumn) (v : Value) : Decidable (column.Accepts v) :=
  inferInstanceAs (Decidable (_ ∨ _))

end ReaderColumn

/-- What a column has against a cell. -/
inductive CellFault where
  | null
  | mismatch (expected : DbType) (actual : Option DbType)

namespace CellFault

def kind : CellFault → ReaderErrorKind
  | null => .nullValue
  | mismatch _ _ => .typeMismatch

/-- The fault without saying where it is. -/
def text : CellFault → String
  | null => "Data is Null. This method or property cannot be called on Null values."
  | mismatch expected actual =>
    "Unable to cast a value of type '" ++ ReaderColumn.typeName actual ++ "' to type '"
      ++ expected.name ++ "'."

/-- The fault after words that say where it is. -/
def textAfter (place : String) : CellFault → String
  | null => place ++ "The column is not nullable but the value was NULL."
  | mismatch expected actual =>
    place ++ "The expected type was '" ++ expected.name ++ "' but the actual value was of type '"
      ++ ReaderColumn.typeName actual ++ "'."

/-- With details, the message names the column and its ordinal; without, it is about the fault
alone. -/
def message (detailed : Bool) (name : String) (ordinal : Nat) (fault : CellFault) : String :=
  if detailed then fault.textAfter (ReaderColumn.detailedText name ordinal) else fault.text

end CellFault

namespace ReaderColumn

inductive Refuses (column : ReaderColumn) (v : Value) : CellFault → Prop where
  | null : v.isNull = true → column.nullable = false → Refuses column v .null
  | mismatch {expected : DbType} :
      v.isNull = false → column.dbType = some expected → expected ≠ .object →
      v.dbType ≠ some expected → Refuses column v (.mismatch expected v.dbType)

variable {names : List String} {place ordinal : Nat} {column : ReaderColumn} {v : Value}

theorem ordinal?_eq_some :
    column.ordinal? names place = some ordinal ↔ column.TakesAt names place ordinal := by
  unfold ordinal? TakesAt
  cases column.name with
  | some name =>
    simp only [List.find?_range_eq_some, decide_eq_true_eq, List.mem_range]
    constructor
    · rintro ⟨named, -, first⟩
      exact ⟨named, fun earlier before => by simpa using first earlier before⟩
    · rintro ⟨named, first⟩
      exact ⟨named, (List.getElem?_eq_some_iff.1 named).1, fun earlier before => by
        simpa using first earlier before⟩
  | none =>
    simp only [Option.ite_none_right_eq_some, Option.some.injEq]
    constructor
    · rintro ⟨within, rfl⟩
      exact ⟨rfl, within⟩
    · rintro ⟨rfl, within⟩
      exact ⟨within, rfl⟩

theorem resolves_iff :
    column.Resolves names place ↔ (column.ordinal? names place).isSome = true := by
  unfold Resolves ordinal?
  cases column.name with
  | some name =>
    simp only [Option.mem_some_iff, forall_eq', reduceCtorEq, List.find?_isSome, List.mem_range,
      decide_eq_true_eq]
    constructor
    · rintro ⟨member, -⟩
      obtain ⟨ordinal, within, named⟩ := List.getElem_of_mem member
      exact ⟨ordinal, within, by rw [List.getElem?_eq_getElem within, named]⟩
    · rintro ⟨ordinal, -, named⟩
      exact ⟨List.mem_of_getElem? named, False.elim⟩
  | none => simp

theorem resolution_within {columns : List ReaderColumn} :
    ∀ resolved ∈ resolution names place columns, resolved.2.1 < names.length := by
  intro resolved member
  obtain ⟨⟨column, place'⟩, -, found⟩ := List.mem_filterMap.1 member
  obtain ⟨ordinal, there, titled⟩ := Option.bind_eq_some_iff.1 found
  obtain ⟨name, -, same⟩ := Option.bind_eq_some_iff.1 titled
  cases same
  exact (ordinal?_eq_some.1 there).within

theorem title_isSome (takes : column.TakesAt names place ordinal) :
    ∃ name, column.title names ordinal = some name := by
  unfold title
  rcases column.name with _ | name
  · exact ⟨_, List.getElem?_eq_getElem takes.within⟩
  · exact ⟨name, rfl⟩

theorem exists_refuses (refused : ¬ column.Accepts v) : ∃ fault, column.Refuses v fault := by
  unfold Accepts at refused
  rcases null : v.isNull with _ | _
  · rcases declared : column.dbType with _ | expected
    · exact absurd (.inr ⟨null, .inl declared⟩) refused
    · rw [declared, null] at refused
      have typed : expected ≠ .object := fun same => refused (by simp [same])
      have mismatch : v.dbType ≠ some expected := fun same => refused (by simp [same])
      exact ⟨_, .mismatch null declared typed mismatch⟩
  · have required : column.nullable = false := by
      cases nullable : column.nullable with
      | false => rfl
      | true => exact absurd (.inl ⟨null, nullable⟩) refused
    exact ⟨_, .null null required⟩

theorem check_of_accepts (detailed : Bool) (name : String) (ordinal : Nat)
    (accepts : column.Accepts v) : column.check detailed name ordinal v = .ok () := by
  unfold check
  obtain ⟨null, nullable⟩ | ⟨valued, typed⟩ := accepts
  · simp [null, nullable]
  · rcases declared : column.dbType with _ | expected
    · simp [valued]
    · rw [declared] at typed
      simp only [reduceCtorEq, Option.some.injEq, false_or] at typed
      simp only [valued, Bool.false_eq_true, if_false]
      rw [if_pos (typed.imp_right Eq.symm)]

theorem check_of_refuses (detailed : Bool) (name : String) (ordinal : Nat) {fault : CellFault}
    (refuses : column.Refuses v fault) :
    column.check detailed name ordinal v =
      .error (.reader fault.kind (fault.message detailed name ordinal)) := by
  unfold check
  cases refuses with
  | null null required =>
    rw [if_pos null, required, if_neg Bool.false_ne_true]
    rfl
  | mismatch valued declared typed mismatch =>
    rw [valued, if_neg Bool.false_ne_true, declared]
    dsimp only
    rw [if_neg (not_or_intro typed mismatch)]
    rfl

end ReaderColumn

/-- A cell of a set, as it is read through a declared column. -/
structure Cell where
  column : ReaderColumn
  ordinal : Nat
  name : String
  value : Value

/-- The cells of a row at the ordinals of the columns. -/
def Cell.ofRow (resolved : List Cursor.Resolved) (row : List Value) : List Cell :=
  resolved.filterMap fun (column, ordinal, name) => row[ordinal]?.map (⟨column, ordinal, name, ·⟩)

/-- The cells that are read through declared columns: row after row, and within a row in the order
of the columns. -/
def ResultSet.cells (set : ResultSet) (columns : List ReaderColumn) : List Cell :=
  set.rows.flatMap (Cell.ofRow (ReaderColumn.resolution set.columns 0 columns))

def Cell.Accepted (cell : Cell) : Prop := cell.column.Accepts cell.value

instance (cell : Cell) : Decidable cell.Accepted :=
  inferInstanceAs (Decidable (cell.column.Accepts cell.value))

/-- How reading the cells ends: with the first one that its column refuses, if there is one. -/
inductive Cell.Judged (detailed : Bool) (cells : List Cell) : Outcome α → Prop where
  | passed {a : α} : (∀ cell ∈ cells, cell.Accepted) → Judged detailed cells (.ok a)
  | refused {cell : Cell} {fault : CellFault} :
      cells.find? (¬ ·.Accepted) = some cell → cell.column.Refuses cell.value fault →
      Judged detailed cells
        (.error (.error (.reader fault.kind (fault.message detailed cell.name cell.ordinal))))

/-- How loading a set through declared columns ends: with the first column that the set does not
have, or else as reading the cells does. -/
inductive ResultSet.Judged (set : ResultSet) (columns : List ReaderColumn) (detailed : Bool) :
    Outcome α → Prop where
  | unresolved {column : ReaderColumn} {place : Nat} :
      columns.zipIdx.find? (fun x => ¬ x.1.Resolves set.columns x.2) = some (column, place) →
      Judged set columns detailed
        (.error (.error (column.unresolvedError columns.length set.columns.length)))
  | resolved {o : Outcome α} :
      (∀ x ∈ columns.zipIdx, x.1.Resolves set.columns x.2) →
      Cell.Judged detailed (set.cells columns) o → Judged set columns detailed o

theorem Cell.Judged.append_error {detailed : Bool} {cells : List Cell} {failure : Failure}
    (judged : Judged detailed cells (.error failure : Outcome α)) (more : List Cell) :
    Judged detailed (cells ++ more) (.error failure : Outcome β) := by
  cases judged with
  | refused first refuses =>
    exact .refused (by rw [List.find?_append, first, Option.some_or]) refuses

theorem Cell.Judged.error {detailed : Bool} {cells : List Cell} {failure : Failure}
    (judged : Judged detailed cells (.error failure : Outcome α)) :
    Judged detailed cells (.error failure : Outcome β) := by
  cases judged with
  | refused first refuses => exact .refused first refuses

theorem Cell.Judged.append_ok {detailed : Bool} {cells more : List Cell} {a : α} {o : Outcome β}
    (passed : Judged detailed cells (.ok a)) (judged : Judged detailed more o) :
    Judged detailed (cells ++ more) o := by
  obtain ⟨accepted⟩ := passed
  cases judged with
  | passed others => exact .passed (List.forall_mem_append.2 ⟨accepted, others⟩)
  | refused first refuses =>
    have none : cells.find? (¬ ·.Accepted) = none := by simpa using accepted
    exact .refused (by rw [List.find?_append, none, Option.none_or, first]) refuses

theorem Cell.Judged.map {detailed : Bool} {cells : List Cell} {a : α} (b : β)
    (passed : Judged detailed cells (.ok a)) : Judged detailed cells (.ok b : Outcome β) := by
  obtain ⟨accepted⟩ := passed
  exact .passed accepted

namespace ReaderColumn

/-- How looking for columns declared from a place on ends: with their ordinals, or with the first
column that is not there. -/
inductive Found (names : List String) (total place : Nat) (columns : List ReaderColumn) :
    Outcome (List Nat) → Prop where
  | taken {ordinals : List Nat} :
      Take names place columns ordinals → Found names total place columns (.ok ordinals)
  | missing {x : ReaderColumn × Nat} :
      (columns.zipIdx place).find? (fun x => ¬ x.1.Resolves names x.2) = some x →
      Found names total place columns (.error (.error (x.1.unresolvedError total names.length)))

variable {names : List String} {total place ordinal : Nat} {column : ReaderColumn}
  {columns : List ReaderColumn}

theorem TakesAt.resolves (takes : column.TakesAt names place ordinal) :
    column.Resolves names place := by
  rw [resolves_iff, ordinal?_eq_some.2 takes, Option.isSome_some]

theorem Take.resolves {ordinals : List Nat} (take : Take names place columns ordinals) :
    ∀ x ∈ columns.zipIdx place, x.1.Resolves names x.2 := by
  induction take with
  | done => simp
  | column takes _ ih =>
    rw [List.zipIdx_cons]
    exact List.forall_mem_cons.2 ⟨takes.resolves, ih⟩

theorem Found.cons_ok {ordinals : List Nat} (takes : column.TakesAt names place ordinal)
    (found : Found names total (place + 1) columns (.ok ordinals)) :
    Found names total place (column :: columns) (.ok (ordinal :: ordinals)) := by
  obtain ⟨take⟩ := found
  exact .taken (.column takes take)

theorem Found.cons_error {failure : Failure} (resolves : column.Resolves names place)
    (found : Found names total (place + 1) columns (.error failure)) :
    Found names total place (column :: columns) (.error failure) := by
  cases found with
  | @missing x first =>
    have same : ((column :: columns).zipIdx place).find? (fun x => ¬ x.1.Resolves names x.2) =
        some x := by
      rw [List.zipIdx_cons, List.find?_cons_of_neg (by simpa using resolves)]
      exact first
    exact .missing same

theorem Found.of_unresolved (unresolved : ¬ column.Resolves names place) :
    Found names total place (column :: columns)
      (.error (.error (column.unresolvedError total names.length))) := by
  have first : ((column :: columns).zipIdx place).find? (fun x => ¬ x.1.Resolves names x.2) =
      some (column, place) := by
    rw [List.zipIdx_cons, List.find?_cons_of_pos (by simpa using unresolved)]
  exact .missing first

end ReaderColumn

theorem ResultSet.Judged.error {set : ResultSet} {columns : List ReaderColumn} {detailed : Bool}
    {failure : Failure} (judged : set.Judged columns detailed (.error failure : Outcome α)) :
    set.Judged columns detailed (.error failure : Outcome β) := by
  cases judged with
  | unresolved first => exact .unresolved first
  | resolved all judged => exact .resolved all judged.error

theorem ResultSet.Judged.map {set : ResultSet} {columns : List ReaderColumn} {detailed : Bool}
    {a : α} (b : β) (judged : set.Judged columns detailed (.ok a)) :
    set.Judged columns detailed (.ok b : Outcome β) := by
  cases judged with
  | resolved all judged => exact .resolved all (judged.map b)

theorem Cell.Judged.isOk_iff {detailed : Bool} {cells : List Cell} {o : Outcome α}
    (judged : Judged detailed cells o) : o.isOk = true ↔ ∀ cell ∈ cells, cell.Accepted := by
  cases judged with
  | passed accepted => exact iff_of_true rfl accepted
  | @refused cell _ first =>
    have refused : ¬ cell.Accepted := by simpa using List.find?_some first
    exact iff_of_false Bool.false_ne_true fun all =>
      refused (all _ (List.mem_of_find?_eq_some first))

theorem ResultSet.Judged.isOk_iff {set : ResultSet} {columns : List ReaderColumn} {detailed : Bool}
    {o : Outcome α} (judged : set.Judged columns detailed o) :
    o.isOk = true ↔ (∀ x ∈ columns.zipIdx, x.1.Resolves set.columns x.2) ∧
      ∀ cell ∈ set.cells columns, cell.Accepted := by
  cases judged with
  | @unresolved column place first =>
    have unresolved : ¬ column.Resolves set.columns place := by
      simpa using List.find?_some first
    exact iff_of_false Bool.false_ne_true fun all =>
      unresolved (all.1 _ (List.mem_of_find?_eq_some first))
  | resolved all judged => exact judged.isOk_iff.trans (and_iff_right all).symm

theorem Cell.judged_check (detailed : Bool) (cell : Cell) :
    Judged detailed [cell]
      (.ofResult (cell.column.check detailed cell.name cell.ordinal cell.value)) := by
  by_cases accepts : cell.column.Accepts cell.value
  · rw [ReaderColumn.check_of_accepts detailed cell.name cell.ordinal accepts]
    exact .passed (by simpa [Accepted] using accepts)
  · obtain ⟨fault, refuses⟩ := ReaderColumn.exists_refuses accepts
    rw [ReaderColumn.check_of_refuses detailed cell.name cell.ordinal refuses]
    have first : [cell].find? (¬ ·.Accepted) = some cell :=
      List.find?_cons_of_pos (decide_eq_true accepts)
    exact .refused first refuses

end SqlExecution
