import SqlExecution.Text.Pattern

/-! What expressions match, told without a search, and what a compiler of expressions promises. The
compiler of the plain kind keeps the promise. -/

namespace SqlExecution.Pattern

/-- The expression matches the third text between what precedes and what follows it. -/
inductive Spans : Pattern → List Char → List Char → List Char → Prop where
  | nil (before after : List Char) : Spans [] before [] after
  | start {p m after} (rest : Spans p [] m after) : Spans (.start :: p) [] m after
  | finish {p before} (rest : Spans p before [] []) : Spans (.finish :: p) before [] []
  | one {k p before c m after} (has : k.has c = true) (rest : Spans p (before ++ [c]) m after) :
    Spans (.one k :: p) before (c :: m) after
  | many {k p before run m after} (has : ∀ c ∈ run, k.has c = true)
    (rest : Spans p (before ++ run) m after) : Spans (.many k :: p) before (run ++ m) after

/-- The expression matches some of what follows, from its beginning. -/
def Begins (p : Pattern) (before cs : List Char) : Prop :=
  ∃ m after, cs = m ++ after ∧ Spans p before m after

/-- The expression matches somewhere in the text. -/
def FoundIn (p : Pattern) (cs : List Char) : Prop :=
  ∃ before m after, cs = before ++ (m ++ after) ∧ Spans p before m after

variable {k : CharClass} {p : Pattern} {before cs : List Char} {c : Char}

theorem begins_nil : Begins [] before cs := ⟨[], cs, rfl, .nil before cs⟩

theorem begins_start_iff : Begins (.start :: p) before cs ↔ before = [] ∧ Begins p [] cs := by
  constructor
  · rintro ⟨m, after, rfl, spans⟩
    cases spans with
    | start rest => exact ⟨rfl, m, after, rfl, rest⟩
  · rintro ⟨rfl, m, after, rfl, rest⟩
    exact ⟨m, after, rfl, .start rest⟩

theorem begins_finish_iff : Begins (.finish :: p) before cs ↔ cs = [] ∧ Begins p before [] := by
  constructor
  · rintro ⟨m, after, rfl, spans⟩
    cases spans with
    | finish rest => exact ⟨rfl, [], [], rfl, rest⟩
  · rintro ⟨rfl, m, after, nothing, rest⟩
    obtain ⟨rfl, rfl⟩ := List.append_eq_nil_iff.1 nothing.symm
    exact ⟨[], [], rfl, .finish rest⟩

theorem not_begins_one_nil : ¬ Begins (.one k :: p) before [] := by
  rintro ⟨m, after, nothing, spans⟩
  cases spans with
  | one => cases nothing

theorem begins_one_cons_iff :
    Begins (.one k :: p) before (c :: cs) ↔ k.has c = true ∧ Begins p (before ++ [c]) cs := by
  constructor
  · rintro ⟨m, after, split, spans⟩
    cases spans with
    | one has rest =>
      obtain ⟨rfl, rfl⟩ := List.cons.inj split
      exact ⟨has, _, after, rfl, rest⟩
  · rintro ⟨has, m, after, rfl, rest⟩
    exact ⟨c :: m, after, rfl, .one has rest⟩

theorem begins_many_iff : Begins (.many k :: p) before cs ↔
    ∃ run rest, cs = run ++ rest ∧ (∀ c ∈ run, k.has c = true) ∧ Begins p (before ++ run) rest := by
  constructor
  · rintro ⟨m, after, rfl, spans⟩
    cases spans with
    | @many _ _ _ run m _ has rest =>
      exact ⟨run, m ++ after, List.append_assoc .., has, m, after, rfl, rest⟩
  · rintro ⟨run, rest, rfl, has, m, after, rfl, spans⟩
    exact ⟨run ++ m, after, (List.append_assoc ..).symm, .many has spans⟩

theorem begins_many_finish_iff :
    Begins [.many k, .finish] before cs ↔ ∀ c ∈ cs, k.has c = true := by
  rw [begins_many_iff]
  constructor
  · rintro ⟨run, rest, rfl, has, ends⟩
    obtain ⟨rfl, -⟩ := begins_finish_iff.1 ends
    rwa [List.append_nil]
  · intro has
    exact ⟨cs, [], (List.append_nil cs).symm, has, begins_finish_iff.2 ⟨rfl, begins_nil⟩⟩

theorem foundIn_start_iff : FoundIn (.start :: p) cs ↔ Begins p [] cs := by
  constructor
  · rintro ⟨before, m, after, split, spans⟩
    obtain ⟨rfl, begins⟩ := begins_start_iff.1 ⟨m, after, rfl, spans⟩
    rwa [split]
  · rintro ⟨m, after, rfl, spans⟩
    exact ⟨[], m, after, rfl, .start spans⟩

theorem skips_iff {admits : Char → Bool} {next : Bool → List Char → Bool}
    {Next : List Char → List Char → Prop}
    (same : ∀ before cs, next before.isEmpty cs = true ↔ Next before cs)
    (before cs : List Char) :
    skips admits next before.isEmpty cs = true ↔
      ∃ run rest, cs = run ++ rest ∧ (∀ c ∈ run, admits c = true) ∧ Next (before ++ run) rest := by
  -- A skipped character joins what precedes, which is not empty from there on.
  induction cs generalizing before with
  | nil =>
    rw [skips, same]
    constructor
    · intro here
      exact ⟨[], [], rfl, by simp, by rwa [List.append_nil]⟩
    · rintro ⟨run, rest, nothing, -, later⟩
      obtain ⟨rfl, rfl⟩ := List.append_eq_nil_iff.1 nothing.symm
      rwa [List.append_nil] at later
  | cons c cs ih =>
    have opened : (before ++ [c]).isEmpty = false := by simp
    have later := ih (before ++ [c])
    rw [opened] at later
    rw [skips, Bool.or_eq_true, Bool.and_eq_true, same, later]
    constructor
    · rintro (here | ⟨admitted, run, rest, rfl, has, next⟩)
      · exact ⟨[], c :: cs, rfl, by simp, by rwa [List.append_nil]⟩
      · rw [List.append_assoc] at next
        exact ⟨c :: run, rest, rfl, List.forall_mem_cons.2 ⟨admitted, has⟩, next⟩
    · rintro ⟨run, rest, split, has, next⟩
      cases run with
      | nil =>
        rw [List.nil_append] at split
        rw [List.append_nil, ← split] at next
        exact .inl next
      | cons d run =>
        obtain ⟨rfl, rfl⟩ := List.cons.inj split
        obtain ⟨admitted, has⟩ := List.forall_mem_cons.1 has
        exact .inr ⟨admitted, run, rest, rfl, has, by rwa [List.append_assoc]⟩

theorem fits_iff (p : Pattern) (before cs : List Char) :
    fits p before.isEmpty cs = true ↔ Begins p before cs := by
  induction p generalizing before cs with
  | nil => exact iff_of_true rfl begins_nil
  | cons part p ih =>
    cases part with
    | start =>
      rw [begins_start_iff, fits, Bool.and_eq_true, List.isEmpty_iff]
      refine and_congr_right ?_
      rintro rfl
      exact ih [] cs
    | finish =>
      rw [begins_finish_iff, fits, Bool.and_eq_true, List.isEmpty_iff]
      refine and_congr_right ?_
      rintro rfl
      exact ih before []
    | one k =>
      cases cs with
      | nil => exact iff_of_false Bool.false_ne_true not_begins_one_nil
      | cons c cs =>
        have opened : (before ++ [c]).isEmpty = false := by simp
        have rest := ih (before ++ [c]) cs
        rw [opened] at rest
        rw [begins_one_cons_iff, fits, Bool.and_eq_true, rest]
    | many k =>
      rw [begins_many_iff, fits]
      exact skips_iff ih before cs

theorem accepts_iff (p : Pattern) (s : String) : p.accepts s = true ↔ p.FoundIn s.toList := by
  refine (skips_iff (fits_iff p) [] s.toList).trans ?_
  constructor
  · rintro ⟨before, _, split, -, m, after, rfl, spans⟩
    exact ⟨before, m, after, split, spans⟩
  · rintro ⟨before, m, after, split, spans⟩
    exact ⟨before, m ++ after, split, fun _ _ => rfl, m, after, rfl, spans⟩

namespace Reading

variable {done : List PatternPart} {read : List ClassItem}

theorem item_wordChar (c : WordChar) :
    item done read c.char = some (items done (.single c :: read)) := by
  have other : c.char ≠ ']' ∧ c.char ≠ '-' := by
    constructor <;> intro same <;> exact absurd (same ▸ c.plain) (by decide)
  unfold item
  split
  · exact absurd ‹_› other.1
  · exact absurd ‹_› other.2
  · rw [WordChar.of?_self, Option.map_some]

theorem item_dash (low : WordChar) :
    item done (.single low :: read) '-' = some (upTo done read low) := rfl

theorem reads_item (i : ClassItem) :
    i.chars.foldlM step (items done read) = some (items done (i :: read)) := by
  cases i with
  | single c => simp [ClassItem.chars, step, item_wordChar]
  | range low high ordered =>
    simp [ClassItem.chars, step, item_wordChar, item_dash, bound, WordChar.of?_self, ordered]

theorem reads_items (is : List ClassItem) :
    (is.flatMap ClassItem.chars).foldlM step (items done read) =
      some (items done (is.reverse ++ read)) := by
  induction is generalizing read with
  | nil => rfl
  | cons i is ih => simp [reads_item, ih]

theorem reads_class (k : CharClass) :
    k.chars.foldlM step (parts done) = some (parts (.one k :: done)) := by
  simp [CharClass.chars, step, part, reads_items, item, k.nonempty]

theorem reads_part (q : PatternPart) :
    q.chars.foldlM step (parts done) = some (parts (q :: done)) := by
  cases q with
  | start | finish => rfl
  | one k => exact reads_class k
  | many k => simp [PatternPart.chars, reads_class, step, part]

theorem reads_parts (p : Pattern) :
    (p.flatMap PatternPart.chars).foldlM step (parts done) = some (parts (p.reverse ++ done)) := by
  induction p generalizing done with
  | nil => rfl
  | cons q p ih => simp [reads_part, ih]

end Reading

theorem parse?_text (p : Pattern) : parse? p.text = some p := by
  simp [parse?, text, Reading.reads_parts]

/-- What a compiler promises of expressions of the plain kind: a short one is not refused for its
size, nor for anything else, and what is made of one tells in which texts it matches somewhere. -/
structure Compiler.Documented (compile : Compiler) : Prop where
  compiles : ∀ p : Pattern, p.text.length ≤ 1000 → ∃ accepts, compile p.text = .ok accepts
  decides : ∀ (p : Pattern) (accepts : String → Bool), compile p.text = .ok accepts →
    ∀ s, accepts s = true ↔ p.FoundIn s.toList

theorem documented_compile : Compiler.Documented compile where
  compiles p _ := ⟨p.accepts, by rw [compile, parse?_text]⟩
  decides p accepts compiled := by
    rw [compile, parse?_text] at compiled
    obtain rfl := Except.ok.inj compiled
    exact p.accepts_iff

end SqlExecution.Pattern
