import Mathlib.Data.List.Forall2
import Mathlib.Data.List.Lex
import SqlExecution.Engine.Execution

/-! Binding a tree of parameters to a value. Each leaf takes the item at its own place in the value,
depth first and from left to right, up to the first composite that does not get its items. -/

namespace SqlExecution

/-- Which part to go on to, at each level of a tree. In lexicographic order, the places of a tree
come depth first and from left to right. -/
abbrev Place := List Nat

/-- The value at a place within nested arrays. -/
def Value.item? : Value → Place → Option Value
  | v, [] => some v
  | v, n :: place => (v.array?.bind (·[n]?)).bind (·.item? place)

namespace Parameter

/-- The parameter at a place within nested composites. -/
def part? : Parameter → Place → Option Parameter
  | p, [] => some p
  | composite _ parts, n :: place => parts[n]?.bind (·.part? place)
  | _, _ :: _ => none

def isLeaf : Parameter → Bool
  | composite .. => false
  | _ => true

/-- The native parameter is what a leaf makes of the value. -/
def Carries (v : Value) (n : NativeParameter) : Parameter → Prop
  | mapped _ name mapping nullable direction =>
    n.name = name ∧ n.value = v ∧ n.direction = direction ∧
      n.dbType = (mapping.bind (·.dbType)).or v.dbType ∧
      n.nullable = nullable.getD v.isNull ∧ n.size = mapping.bind (·.size)
  | raw _ template => n = { template with value := v }
  | composite .. => False

/-- What is said of a composite that does not get its items. -/
def complaint (i : String) (expected : Nat) : Option (List Value) → Error
  | none => notAnArray i expected
  | some items => wrongLength i expected items.length

/-- A composite whose value is no array of as many items as it has parts. -/
def Refuses (e : Error) (v : Option Value) : Parameter → Prop
  | composite i parts => ∃ w, v = some w ∧ w.array?.map List.length ≠ some parts.length ∧
      e = complaint i parts.length w.array?
  | _ => False

/-- Parameters and the values for them, by their places. -/
structure Layout where
  part : Place → Option Parameter
  item : Place → Option Value

namespace Layout

/-- There is a parameter at the place of which, with the value for it, something is true. -/
def Is (P : Parameter → Option Value → Prop) (t : Layout) (place : Place) : Prop :=
  ∃ p, t.part place = some p ∧ P p (t.item place)

def Leaf (t : Layout) : Place → Prop := t.Is fun p _ => p.isLeaf = true

def Holds (n : NativeParameter) (t : Layout) : Place → Prop :=
  t.Is fun p v => ∃ w, v = some w ∧ p.Carries w n

def Mismatch (e : Error) (t : Layout) : Place → Prop := t.Is fun p v => p.Refuses e v

/-- There is no mismatch before the place, nor at it. -/
def Clear (t : Layout) (place : Place) : Prop := ∀ e other, t.Mismatch e other → place < other

/-- These are the native parameters of the leaves before any mismatch, in the order of their
places. -/
def Adds (t : Layout) (added : List NativeParameter) : Prop :=
  ∃ places : List Place, places.Pairwise (· < ·) ∧
    (∀ place, place ∈ places ↔ t.Leaf place ∧ t.Clear place) ∧
    List.Forall₂ (fun place n => t.Holds n place) places added

/-- The error is of the mismatch that comes before all others. -/
def FirstMismatch (t : Layout) (e : Error) : Prop :=
  ∃ place, t.Mismatch e place ∧ ∀ e' other, t.Mismatch e' other → other = place ∨ place < other

structure Binds (t : Layout) (b : Binding) : Prop where
  added : t.Adds b.added
  ok (succeeds : b.result = .ok ()) (e : Error) (place : Place) : ¬ t.Mismatch e place
  error {e : Error} (fails : b.result = .error e) : t.FirstMismatch e

/-- A parameter and a value for it. -/
def tree (p : Parameter) (v : Value) : Layout := ⟨p.part?, v.item?⟩

/-- Parameters and values for them, each pair at the place of its number. -/
def forest (ps : List Parameter) (vs : List Value) : Layout where
  part
    | [] => none
    | n :: place => ps[n]?.bind (·.part? place)
  item
    | [] => none
    | n :: place => vs[n]?.bind (·.item? place)

variable {P : Parameter → Option Value → Prop} {p : Parameter} {ps : List Parameter} {v : Value}
  {vs : List Value} {place other : Place} {t : Layout} {e : Error}

/-- The place after one more parameter was put in front. -/
def later : Place → Place
  | [] => []
  | n :: place => (n + 1) :: place

theorem later_lt : later place < later other ↔ place < other := by
  cases place <;> cases other <;> simp [later, List.cons_lt_cons_iff]

theorem not_is_root : ¬ (forest ps vs).Is P [] := fun ⟨_, part, _⟩ => nomatch part

theorem is_cons : (forest (p :: ps) (v :: vs)).Is P place ↔
    (∃ r, (tree p v).Is P r ∧ place = 0 :: r) ∨ ∃ r, (forest ps vs).Is P r ∧ place = later r := by
  constructor
  · intro is
    match place with
    | [] => exact absurd is not_is_root
    | 0 :: r => exact .inl ⟨r, is, rfl⟩
    | (n + 1) :: r => exact .inr ⟨n :: r, is, rfl⟩
  · rintro (⟨r, is, rfl⟩ | ⟨r, is, rfl⟩)
    · exact is
    · cases r with
      | nil => exact absurd is not_is_root
      | cons n r => exact is

theorem zero_lt_later (is : (forest ps vs).Is P other) (r : Place) : 0 :: r < later other := by
  cases other with
  | nil => exact absurd is not_is_root
  | cons n s => exact List.cons_lt_cons_iff.2 (.inl (Nat.succ_pos n))

theorem binds_nil : (forest [] vs).Binds ⟨[], .ok ()⟩ := by
  have empty : ∀ {P : Parameter → Option Value → Prop} place, ¬ (forest [] vs).Is P place := by
    rintro P (_ | ⟨n, place⟩) ⟨p, part, _⟩ <;> cases part
  exact ⟨⟨[], .nil, fun place => ⟨nofun, fun ⟨leaf, _⟩ => absurd leaf (empty place)⟩, .nil⟩,
    fun _ e place => empty place, nofun⟩

theorem clear_zero {r : Place} :
    (forest (p :: ps) (v :: vs)).Clear (0 :: r) ↔ (tree p v).Clear r := by
  constructor
  · intro clear e other mismatch
    have before := clear e (0 :: other) (is_cons.2 (.inl ⟨other, mismatch, rfl⟩))
    simpa [List.cons_lt_cons_iff] using before
  · intro clear e other mismatch
    rcases is_cons.1 mismatch with ⟨s, here, rfl⟩ | ⟨s, there, rfl⟩
    · exact List.cons_lt_cons_iff.2 (.inr ⟨rfl, clear e s here⟩)
    · exact zero_lt_later there r

theorem clear_later (fits : ∀ e place, ¬ (tree p v).Mismatch e place) :
    (forest (p :: ps) (v :: vs)).Clear (later place) ↔ (forest ps vs).Clear place := by
  constructor
  · intro clear e other mismatch
    exact later_lt.1 (clear e (later other) (is_cons.2 (.inr ⟨other, mismatch, rfl⟩)))
  · intro clear e other mismatch
    rcases is_cons.1 mismatch with ⟨s, here, rfl⟩ | ⟨s, there, rfl⟩
    · exact absurd here (fits e s)
    · exact later_lt.2 (clear e s there)

theorem not_clear_later (mismatch : (tree p v).Mismatch e other)
    (leaf : (forest ps vs).Leaf place) :
    ¬ (forest (p :: ps) (v :: vs)).Clear (later place) := fun clear =>
  List.lt_asymm (clear e (0 :: other) (is_cons.2 (.inl ⟨other, mismatch, rfl⟩)))
    (zero_lt_later leaf other)

theorem holds_zero {n : NativeParameter} {r : Place} (holds : (tree p v).Holds n r) :
    (forest (p :: ps) (v :: vs)).Holds n (0 :: r) := is_cons.2 (.inl ⟨r, holds, rfl⟩)

theorem holds_later {n : NativeParameter} {r : Place} (holds : (forest ps vs).Holds n r) :
    (forest (p :: ps) (v :: vs)).Holds n (later r) := is_cons.2 (.inr ⟨r, holds, rfl⟩)

theorem adds_cons_of_fits {added more : List NativeParameter} (first : (tree p v).Adds added)
    (rest : (forest ps vs).Adds more) (fits : ∀ e place, ¬ (tree p v).Mismatch e place) :
    (forest (p :: ps) (v :: vs)).Adds (added ++ more) := by
  obtain ⟨places, ordered, members, holds⟩ := first
  obtain ⟨places', ordered', members', holds'⟩ := rest
  refine ⟨places.map (0 :: ·) ++ places'.map later, ?_, fun place => ?_, ?_⟩
  · refine List.pairwise_append.2 ⟨?_, ?_, ?_⟩
    · exact List.pairwise_map.2 (ordered.imp fun before =>
        List.cons_lt_cons_iff.2 (.inr ⟨rfl, before⟩))
    · exact List.pairwise_map.2 (ordered'.imp later_lt.2)
    · intro a member b member'
      obtain ⟨r, _, rfl⟩ := List.mem_map.1 member
      obtain ⟨s, there, rfl⟩ := List.mem_map.1 member'
      exact zero_lt_later ((members' s).1 there).1 r
  · rw [List.mem_append, List.mem_map, List.mem_map]
    constructor
    · rintro (⟨r, member, rfl⟩ | ⟨r, member, rfl⟩)
      · obtain ⟨leaf, clear⟩ := (members r).1 member
        exact ⟨is_cons.2 (.inl ⟨r, leaf, rfl⟩), clear_zero.2 clear⟩
      · obtain ⟨leaf, clear⟩ := (members' r).1 member
        exact ⟨is_cons.2 (.inr ⟨r, leaf, rfl⟩), (clear_later fits).2 clear⟩
    · rintro ⟨leaf, clear⟩
      rcases is_cons.1 leaf with ⟨r, here, rfl⟩ | ⟨r, there, rfl⟩
      · exact .inl ⟨r, (members r).2 ⟨here, clear_zero.1 clear⟩, rfl⟩
      · exact .inr ⟨r, (members' r).2 ⟨there, (clear_later fits).1 clear⟩, rfl⟩
  · refine List.rel_append ?_ ?_
    · exact List.forall₂_map_left_iff.2 (holds.imp fun _ _ => holds_zero)
    · exact List.forall₂_map_left_iff.2 (holds'.imp fun _ _ => holds_later)

theorem adds_cons_of_mismatch {added : List NativeParameter} (first : (tree p v).Adds added)
    (mismatch : (tree p v).Mismatch e other) : (forest (p :: ps) (v :: vs)).Adds added := by
  obtain ⟨places, ordered, members, holds⟩ := first
  refine ⟨places.map (0 :: ·), ?_, fun place => ?_, ?_⟩
  · exact List.pairwise_map.2 (ordered.imp fun before =>
      List.cons_lt_cons_iff.2 (.inr ⟨rfl, before⟩))
  · rw [List.mem_map]
    constructor
    · rintro ⟨r, member, rfl⟩
      obtain ⟨leaf, clear⟩ := (members r).1 member
      exact ⟨is_cons.2 (.inl ⟨r, leaf, rfl⟩), clear_zero.2 clear⟩
    · rintro ⟨leaf, clear⟩
      rcases is_cons.1 leaf with ⟨r, here, rfl⟩ | ⟨r, there, rfl⟩
      · exact ⟨r, (members r).2 ⟨here, clear_zero.1 clear⟩, rfl⟩
      · exact absurd clear (not_clear_later mismatch there)
  · exact List.forall₂_map_left_iff.2 (holds.imp fun _ _ => holds_zero)

theorem firstMismatch_zero (first : (tree p v).FirstMismatch e) :
    (forest (p :: ps) (v :: vs)).FirstMismatch e := by
  obtain ⟨place, mismatch, least⟩ := first
  refine ⟨0 :: place, is_cons.2 (.inl ⟨place, mismatch, rfl⟩), fun e' other also => ?_⟩
  rcases is_cons.1 also with ⟨s, here, rfl⟩ | ⟨s, there, rfl⟩
  · rcases least e' s here with rfl | before
    · exact .inl rfl
    · exact .inr (List.cons_lt_cons_iff.2 (.inr ⟨rfl, before⟩))
  · exact .inr (zero_lt_later there place)

theorem firstMismatch_later (fits : ∀ e place, ¬ (tree p v).Mismatch e place)
    (first : (forest ps vs).FirstMismatch e) : (forest (p :: ps) (v :: vs)).FirstMismatch e := by
  obtain ⟨place, mismatch, least⟩ := first
  refine ⟨later place, is_cons.2 (.inr ⟨place, mismatch, rfl⟩), fun e' other also => ?_⟩
  rcases is_cons.1 also with ⟨s, here, rfl⟩ | ⟨s, there, rfl⟩
  · exact absurd here (fits e' s)
  · rcases least e' s there with rfl | before
    · exact .inl rfl
    · exact .inr (later_lt.2 before)

theorem Binds.cons {first rest : Binding} (here : (tree p v).Binds first)
    (succeeds : first.result = .ok ()) (there : (forest ps vs).Binds rest) :
    (forest (p :: ps) (v :: vs)).Binds ⟨first.added ++ rest.added, rest.result⟩ := by
  have fits := here.ok succeeds
  refine ⟨adds_cons_of_fits here.added there.added fits, fun ends e place mismatch => ?_,
    fun fails => firstMismatch_later fits (there.error fails)⟩
  rcases is_cons.1 mismatch with ⟨s, bad, rfl⟩ | ⟨s, bad, rfl⟩
  · exact fits e s bad
  · exact there.ok ends e s bad

theorem Binds.stopped {first : Binding} (here : (tree p v).Binds first)
    (fails : first.result = .error e) :
    (forest (p :: ps) (v :: vs)).Binds ⟨first.added, .error e⟩ := by
  obtain ⟨place, mismatch, _⟩ := here.error fails
  refine ⟨adds_cons_of_mismatch here.added mismatch, nofun, fun {e'} same => ?_⟩
  cases same
  exact firstMismatch_zero (here.error fails)

theorem Binds.grouped {i : String} {b : Binding} (below : (forest ps vs).Binds b)
    (array : v.array? = some vs) (fits : vs.length = ps.length) :
    (tree (.composite i ps) v).Binds b := by
  have same : ∀ {P : Parameter → Option Value → Prop}, ¬ P (.composite i ps) (some v) →
      (tree (.composite i ps) v).Is P = (forest ps vs).Is P := by
    intro P unlike
    funext place
    refine propext ?_
    cases place with
    | nil =>
      refine ⟨fun ⟨p, part, is⟩ => ?_, fun is => absurd is not_is_root⟩
      cases part
      exact absurd is unlike
    | cons n r =>
      simp only [Is, tree, forest, part?, Value.item?, array, Option.bind_some]
  have leaves : (tree (.composite i ps) v).Leaf = (forest ps vs).Leaf := same (by simp [isLeaf])
  have mismatches : ∀ e, (tree (.composite i ps) v).Mismatch e = (forest ps vs).Mismatch e :=
    fun e => same (by simp [Refuses, array, fits])
  have holds : ∀ n, (tree (.composite i ps) v).Holds n = (forest ps vs).Holds n :=
    fun n => same (by simp [Carries])
  refine ⟨?_, fun succeeds => ?_, fun fails => ?_⟩
  · simpa only [Adds, Clear, leaves, mismatches, holds] using below.added
  · simpa only [mismatches] using below.ok succeeds
  · simpa only [FirstMismatch, mismatches] using below.error fails

theorem binds_leaf {n : NativeParameter} (leaf : p.isLeaf = true) (carries : p.Carries v n) :
    (tree p v).Binds ⟨[n], .ok ()⟩ := by
  have root : ∀ {place q}, p.part? place = some q → place = [] ∧ q = p := by
    intro place q part
    cases p with
    | composite i parts => cases leaf
    | _ =>
      cases place with
      | nil => exact ⟨rfl, (Option.some.inj part).symm⟩
      | cons k r => cases part
  have fits : ∀ e place, ¬ (tree p v).Mismatch e place := by
    rintro e place ⟨q, part, refuses⟩
    obtain ⟨rfl, rfl⟩ := root part
    cases q with
    | composite i parts => cases leaf
    | _ => cases refuses
  refine ⟨⟨[[]], List.pairwise_singleton _ _, fun place => ?_, ?_⟩, fun _ => fits, nofun⟩
  · rw [List.mem_singleton]
    constructor
    · rintro rfl
      exact ⟨⟨p, rfl, leaf⟩, fun e other bad => absurd bad (fits e other)⟩
    · rintro ⟨⟨q, part, _⟩, _⟩
      exact (root part).1
  · exact .cons ⟨p, rfl, v, rfl, carries⟩ .nil

theorem binds_mismatch {i : String} (refuses : v.array?.map List.length ≠ some ps.length) :
    (tree (.composite i ps) v).Binds ⟨[], .error (complaint i ps.length v.array?)⟩ := by
  have root : (tree (.composite i ps) v).Mismatch (complaint i ps.length v.array?) [] :=
    ⟨_, rfl, v, rfl, refuses, rfl⟩
  refine ⟨⟨[], .nil, fun place => ⟨nofun, fun ⟨_, clear⟩ => ?_⟩, .nil⟩, nofun, fun {e} same => ?_⟩
  · exact absurd (clear _ [] root) (List.not_lt_nil place)
  · cases same
    refine ⟨[], root, fun e' other _ => ?_⟩
    cases other with
    | nil => exact .inl rfl
    | cons k r => exact .inr (List.nil_lt_cons k r)

end Layout

open Layout

mutual

theorem bindValue_binds (p : Parameter) (v : Value) : (tree p v).Binds (p.bindValue v) := by
  cases p with
  | mapped i name mapping nullable direction =>
    exact binds_leaf rfl ⟨rfl, rfl, rfl, rfl, rfl, rfl⟩
  | raw i template => exact binds_leaf rfl rfl
  | composite i parts =>
    unfold bindValue
    cases array : v.array? with
    | none =>
      have refused : (tree (.composite i parts) v).Binds
          ⟨[], .error (complaint i parts.length v.array?)⟩ := binds_mismatch (by simp [array])
      rwa [array] at refused
    | some items =>
      dsimp only
      split
      · next fits => exact (bindParts_binds parts items fits).grouped array fits
      · next other =>
        have refused : (tree (.composite i parts) v).Binds
            ⟨[], .error (complaint i parts.length v.array?)⟩ :=
          binds_mismatch (by simpa [array] using other)
        rwa [array] at refused

theorem bindParts_binds (ps : List Parameter) (vs : List Value) (fits : vs.length = ps.length) :
    (forest ps vs).Binds (bindParts ps vs) := by
  match ps, vs with
  | [], _ => exact binds_nil
  | p :: ps, v :: vs =>
    have here := p.bindValue_binds v
    have there := bindParts_binds ps vs (Nat.succ.inj fits)
    unfold bindParts
    rcases ends : p.bindValue v with ⟨added, e | _⟩
    all_goals rw [ends] at here
    · exact here.stopped rfl
    · exact here.cons rfl there

end

theorem Refuses.names {e : Error} {v : Option Value} {p : Parameter} (refuses : p.Refuses e v) :
    ∃ message, e = .parameter .mismatch p.invariant message := by
  cases p with
  | composite i parts =>
    obtain ⟨w, _, _, rfl⟩ := refuses
    unfold complaint
    cases w.array? <;> exact ⟨_, rfl⟩
  | _ => cases refuses

theorem Layout.forall_not_mismatch_iff (t : Layout) :
    (∀ e place, ¬ t.Mismatch e place) ↔ ∀ place i parts w,
      t.part place = some (.composite i parts) → t.item place = some w →
        ∃ items, w = .array items ∧ items.length = parts.length := by
  constructor
  · intro fits place i parts w part item
    by_contra unlike
    refine fits _ place ⟨_, part, w, item, fun same => unlike ?_, rfl⟩
    cases w with
    | array items => exact ⟨items, rfl, Option.some.inj same⟩
    | _ => cases same
  · rintro arrays e place ⟨q, part, refuses⟩
    cases q with
    | composite i parts =>
      obtain ⟨w, item, unlike, _⟩ := refuses
      obtain ⟨items, rfl, same⟩ := arrays place i parts w part item
      exact unlike (congrArg some same)
    | _ => cases refuses

/-- What binding a parameter to a value comes to. -/
structure Expands (p : Parameter) (v : Value) : Prop where
  succeeds : (p.bindValue v).result = .ok () ↔ ∀ place i parts w,
    p.part? place = some (.composite i parts) → v.item? place = some w →
      ∃ items, w = .array items ∧ items.length = parts.length
  /-- Then every leaf has its native parameter, in the order of their places. -/
  every (ok : (p.bindValue v).result = .ok ()) : ∃ places : List Place, places.Pairwise (· < ·) ∧
    (∀ place, place ∈ places ↔ (tree p v).Leaf place) ∧
    List.Forall₂ (fun place n => (tree p v).Holds n place) places (p.bindValue v).added
  /-- Otherwise the leaves before the first mismatch have theirs. -/
  before : (tree p v).Adds (p.bindValue v).added
  fails {e : Error} (error : (p.bindValue v).result = .error e) : (tree p v).FirstMismatch e
  names {e : Error} {place : Place} (mismatch : (tree p v).Mismatch e place) :
    ∃ q message, p.part? place = some q ∧ e = .parameter .mismatch q.invariant message
  appends (c : NativeCommand) : c.addParameters (p.bindValue v).added =
    { c with parameters := c.parameters ++ (p.bindValue v).added }
  /-- Only the name of the whole is looked up. -/
  found {values : Values} (value : values.find? p.invariant = some v) :
    p.bind values = p.bindValue v

/-- A parameter of any depth takes a value leaf by leaf, or stops at the first composite that the
value does not fit. -/
theorem bindValue_expands (p : Parameter) (v : Value) : p.Expands v := by
  have binds := p.bindValue_binds v
  have none_iff : (p.bindValue v).result = .ok () ↔ ∀ e place, ¬ (tree p v).Mismatch e place := by
    refine ⟨binds.ok, fun fits => ?_⟩
    cases ends : (p.bindValue v).result with
    | ok _ => rfl
    | error e =>
      obtain ⟨place, mismatch, _⟩ := binds.error ends
      exact absurd mismatch (fits e place)
  refine ⟨none_iff.trans (forall_not_mismatch_iff _), fun ok => ?_, binds.added, binds.error,
    fun {e place} mismatch => ?_, fun c => rfl, fun {values} value => ?_⟩
  · obtain ⟨places, ordered, members, holds⟩ := binds.added
    refine ⟨places, ordered, fun place => (members place).trans (and_iff_left ?_), holds⟩
    exact fun e other mismatch => absurd mismatch (binds.ok ok e other)
  · obtain ⟨q, part, refuses⟩ := mismatch
    obtain ⟨message, named⟩ := refuses.names
    exact ⟨q, message, part, named⟩
  · rw [bind, value]

/-- Where a group within a group gets no array, the leaf before it stays bound. -/
example :
    let p : Parameter := .composite "row" [.of "a", .composite "pair" [.of "b", .of "c"], .of "d"]
    let b := p.bindValue (.array [.int 1, .null, .int 2])
    b.added.map (·.name) = ["a"] ∧ b.result = .error (notAnArray "pair" 2) := by
  decide

end Parameter

end SqlExecution
