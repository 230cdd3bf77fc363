import SqlExecution.Proofs.Calls

/-! Loading a cursor into memory. Draining it only reads, whatever is found wrong with what it
holds, and then it is closed once. -/

namespace SqlExecution

variable {σ : Type} [Driver σ]

namespace Cursor

theorem only_drain (c : Cursor) (mode : Mode) (columns : List ReaderColumn) (detailed : Bool) :
    Attempt.Only c.Reads (c.drain mode columns detailed : Attempt σ _) :=
  obeys_drain (fun _ => Session.allows_within) mode columns detailed

theorem issues_load_after_drain (c : Cursor) (mode : Mode) (columns : List ReaderColumn)
    (detailed : Bool) (s : Session σ) :
    ((c.drain mode columns detailed).observe s).2.Issues [.closeCursor c mode]
      ((c.load mode columns detailed).observe s).2 := by
  unfold load
  rw [Attempt.observe_outcome_bind, Attempt.observe_lift_bind, Attempt.observe_outcome_bind]
  generalize (c.drain mode columns detailed).observe s = after at *
  obtain ⟨loaded, t⟩ := after
  have counted := (c.obeys_recordsAffected (R := Session.Within fun _ => False) t).silent
  generalize (c.recordsAffected t : Int64 × Session σ) = counting at *
  obtain ⟨recordsAffected, u⟩ := counting
  have closed : u.Issues [.closeCursor c mode] ((c.close mode).observe u).2 :=
    Engine.issues_call _ _ u
  have rest : ∀ closing : Outcome Unit, Attempt.Only (fun _ => False) (do
      let sets ← Attempt.ofOutcome loaded
      Attempt.ofOutcome closing
      return { walk := { sets }, recordsAffected, detailedErrors := detailed } :
        Attempt σ BufferedReader) := fun closing =>
    (Attempt.obeys_ofOutcome loaded).bind fun sets =>
      (Attempt.obeys_ofOutcome closing).bind fun _ => .pure _
  have ended := (rest ((c.close mode).observe u).1 ((c.close mode).observe u).2).silent
  exact (counted.trans closed).trans ended

theorem load_closes (c : Cursor) (mode : Mode) (columns : List ReaderColumn) (detailed : Bool)
    (s : Session σ) :
    ∃ t, s.Within c.Reads t ∧
      t.Issues [.closeCursor c mode] ((c.load mode columns detailed).observe s).2 :=
  ⟨_, c.only_drain mode columns detailed s, c.issues_load_after_drain mode columns detailed s⟩

end Cursor

end SqlExecution
