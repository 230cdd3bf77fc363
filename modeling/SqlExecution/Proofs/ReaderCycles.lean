import Mathlib.Data.List.Induction
import SqlExecution.Proofs.CommandLife

/-! The cycles of a command's reader, over every sequence of uses. It is open just while it holds a
binding, whatever bound it is let go once, a reader that is not open refuses everything without a
trace, and the rows are counted that were read since it was bound. -/

namespace SqlExecution

variable {σ : Type}

/-- Uses of a command, one after the other. Anything may happen between them, so each comes with
the session that it finds. -/
abbrev CommandLife (σ : Type) := List (CommandUse σ × Session σ)

/-- How many rows were read since the reader was bound last. -/
def CommandUse.rowsRead (told : List (CommandUse σ × Answer σ)) : Nat :=
  (told.reverse.takeWhile fun x => !binds x.2).countP fun x => x.1.advances x.2

namespace DataReader

theorem name_eq_open_iff (r : DataReader σ) :
    r.phase.name = "Open" ↔ ∃ h, r.holding? = some h := by
  unfold holding?
  cases r.phase <;> simp [ReaderPhase.name, ReaderPhase.binding?]

theorem cursor?_of_closed {r : DataReader σ} (closed : r.holding? = none) : r.cursor? = none := by
  unfold holding? at closed
  unfold cursor?
  cases phase : r.phase with
  | bound b => simp [phase, ReaderPhase.binding?] at closed
  | _ => rfl

end DataReader

namespace Command

variable [Driver σ]

/-- The command after some uses. -/
def used (c : Command σ) (past : CommandLife σ) : Command σ :=
  past.foldl (fun c p => (p.1.perform c p.2).1.2) c

/-- The uses with their answers. -/
def told (c : Command σ) : CommandLife σ → List (CommandUse σ × Answer σ)
  | [] => []
  | p :: rest => (p.1, (p.1.perform c p.2).1.1) :: (p.1.perform c p.2).1.2.told rest

/-- What the reader was bound to, in order. -/
def bound (c : Command σ) : CommandLife σ → List Holding
  | [] => []
  | p :: rest => (p.1.perform c p.2).1.1.holding?.toList ++ (p.1.perform c p.2).1.2.bound rest

/-- What the reader held when a use let go of it, in order. -/
def vacated (c : Command σ) : CommandLife σ → List Holding
  | [] => []
  | p :: rest =>
    (if (p.1.vacates (p.1.perform c p.2).1.1).isSome then c.holding?.toList else []) ++
      (p.1.perform c p.2).1.2.vacated rest

variable {c : Command σ} {past : CommandLife σ}

theorem used_append (c : Command σ) (past more : CommandLife σ) :
    c.used (past ++ more) = (c.used past).used more := List.foldl_append

theorem told_append (c : Command σ) (past more : CommandLife σ) :
    c.told (past ++ more) = c.told past ++ (c.used past).told more := by
  induction past generalizing c with
  | nil => rfl
  | cons p past ih => exact congrArg _ (ih _)

theorem bound_append (c : Command σ) (past more : CommandLife σ) :
    c.bound (past ++ more) = c.bound past ++ (c.used past).bound more := by
  induction past generalizing c with
  | nil => rfl
  | cons p past ih =>
    rw [List.cons_append, bound, ih, ← List.append_assoc]
    rfl

/-- What the reader held and what it was bound to was let go in that order, except what it still
holds. -/
theorem balanced (c : Command σ) (past : CommandLife σ) :
    c.holding?.toList ++ c.bound past = c.vacated past ++ (c.used past).holding?.toList := by
  induction past generalizing c with
  | nil => simp [bound, vacated, used]
  | cons p past ih =>
    have goes := p.1.perform_goes c p.2
    have rest := ih (p.1.perform c p.2).1.2
    change c.holding?.toList ++ ((p.1.perform c p.2).1.1.holding?.toList ++ _) =
      (_ ++ (p.1.perform c p.2).1.2.vacated past) ++
        ((p.1.perform c p.2).1.2.used past).holding?.toList
    rw [List.append_assoc _ (vacated _ past), ← rest]
    cases vacates : p.1.vacates (p.1.perform c p.2).1.1 with
    | none =>
      obtain ⟨same, unbound, _⟩ := goes.stays vacates
      rw [same, unbound]
      rfl
    | some mode =>
      rw [(goes.vacated vacates).1]
      rfl

omit [Driver σ] in
theorem rowsRead_append (told : List (CommandUse σ × Answer σ)) (use : CommandUse σ)
    (answer : Answer σ) :
    CommandUse.rowsRead (told ++ [(use, answer)]) =
      if CommandUse.binds answer then 0
      else CommandUse.rowsRead told + if use.advances answer then 1 else 0 := by
  unfold CommandUse.rowsRead
  rw [List.reverse_append, List.reverse_singleton, List.singleton_append, List.takeWhile_cons]
  cases CommandUse.binds answer <;> simp [List.countP_cons]

theorem readCount_used (unread : c.reader = none) {r : DataReader σ}
    (reads : (c.used past).reader = some r) : r.readCount = CommandUse.rowsRead (c.told past) := by
  -- From the back: the last use either bound the reader or went on from the count before it.
  induction past using List.reverseRecOn generalizing r with
  | nil =>
    rw [used, List.foldl_nil, unread] at reads
    cases reads
  | append_singleton past p ih =>
    rw [used_append] at reads
    have rows := (p.1.perform_goes (c.used past) p.2).rows reads
    rw [told_append]
    change _ = CommandUse.rowsRead (c.told past ++ [(p.1, (p.1.perform (c.used past) p.2).1.1)])
    rw [rowsRead_append]
    split at rows
    · next binds => rw [if_pos binds, rows]
    · next binds =>
      obtain ⟨r₀, before, counts⟩ := rows
      rw [if_neg binds, counts, ih before]

theorem refuses_of_closed {r : DataReader σ} (reads : c.reader = some r) (closed : r.holding? = none)
    {use : CommandUse σ} {answer : Answer σ} (refusal : use.refusal? r = some answer)
    (s : Session σ) : use.perform c s = ((answer, c), s) := by
  have unseen := DataReader.cursor?_of_closed closed
  have kept := with_reader reads
  cases use with
  | read mode =>
    cases refusal
    refine (onReader_of_some reads s).trans ?_
    simp [DataReader.read, unseen, kept]
  | nextResult mode =>
    cases refusal
    refine (onReader_of_some reads s).trans ?_
    simp [DataReader.nextResult, unseen, kept]
  | getValue ordinal =>
    cases refusal
    refine (onReader_of_some reads s).trans ?_
    simp [DataReader.getValue, unseen, kept, Outcome.ofResult]
  | isNull ordinal =>
    cases refusal
    refine (onReader_of_some reads s).trans ?_
    simp [DataReader.isNull, DataReader.getValue, unseen, kept, Outcome.ofResult, Except.map]
  | columnName ordinal =>
    cases refusal
    refine (onReader_of_some reads s).trans ?_
    simp [DataReader.columnName, unseen, kept, Outcome.ofResult]
  | dispose mode =>
    cases refusal
    refine (onReader_of_some reads s).trans ?_
    simp [r.dispose_of_none mode closed, kept]
  | _ => cases refusal

/-- What may come of the reader of a command, however the command is used. -/
structure Cycles (c : Command σ) : Prop where
  open_iff {past : CommandLife σ} {r : DataReader σ} (reads : (c.used past).reader = some r) :
    r.phase.name = "Open" ↔ ∃ h, r.holding? = some h
  /-- What the reader is bound to stays with it until a use lets go of it, which releases all of it,
  once and on its own connection. -/
  goes (past : CommandLife σ) (use : CommandUse σ) (s : Session σ) :
    use.Goes (c.used past) s (use.perform (c.used past) s).1.1 (use.perform (c.used past) s).1.2
      (use.perform (c.used past) s).2
  /-- Once the command is dropped, each binding was let go exactly once, in order. -/
  balanced (past : CommandLife σ) (s : Session σ) :
    c.vacated (past ++ [(.drop, s)]) = c.bound past
  refuses {past : CommandLife σ} {r : DataReader σ} (reads : (c.used past).reader = some r)
    (closed : r.phase.name ≠ "Open") {use : CommandUse σ} {answer : Answer σ}
    (refusal : use.refusal? r = some answer) (s : Session σ) :
    use.perform (c.used past) s = ((answer, c.used past), s) ∧
      ∃ message, r.notOpen = .reader .closed message
  counts {past : CommandLife σ} {r : DataReader σ} (reads : (c.used past).reader = some r) :
    r.readCount = CommandUse.rowsRead (c.told past)

/-- However a command is executed and its reader used, the reader is open just while it holds a
binding, each binding is released once by the first use that lets go of it, a closed reader refuses
everything without doing anything, and a disposal reports the rows read since the execution. -/
theorem cycles_of_unread (statement : Statement) : (⟨statement, none⟩ : Command σ).Cycles where
  open_iff {_ r} _ := r.name_eq_open_iff
  goes past use s := use.perform_goes _ s
  balanced past s := by
    have all := balanced (⟨statement, none⟩ : Command σ) (past ++ [(.drop, s)])
    rw [used_append, bound_append] at all
    simpa [used, bound, CommandUse.perform, Answer.holding?, holding?] using all.symm
  refuses {past r} reads closed use answer refusal s := by
    have unheld : r.holding? = none := by
      cases holds : r.holding? with
      | none => rfl
      | some h => exact absurd (r.name_eq_open_iff.2 ⟨h, holds⟩) closed
    exact ⟨refuses_of_closed reads unheld refusal s, _, rfl⟩
  counts reads := readCount_used rfl reads

end Command

end SqlExecution
