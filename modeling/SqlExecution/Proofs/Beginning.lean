import SqlExecution.Engine.Transaction
import SqlExecution.Proofs.Opens

/-! How beginning a transaction goes, and what it leaves behind. -/

namespace SqlExecution

variable {σ : Type}

namespace Transaction

variable {mode : Mode} {c : ConnectionId} {isolation : IsolationLevel}

/-- After a serial number was minted. -/
def serialized (s : Session σ) : Session σ := { s with nextSerial := s.nextSerial + 1 }

theorem ensureNone_apply (c : ConnectionId) (s : Session σ) :
    (ensureNone c).observe s =
      match (s.connections c).ambient with
      | some a => (.error (.error a.alreadyStarted), s)
      | none => (.ok (), s) := by
  unfold ensureNone
  rw [Attempt.observe_get_bind]
  cases (s.connections c).ambient <;> rfl

variable [Driver σ]

/-- How beginning a transaction goes, to its end and the session that it ends in. -/
inductive Beginning (mode : Mode) (c : ConnectionId) (isolation : IsolationLevel)
    (start : Session σ) : Outcome (Transaction σ) → Session σ → Prop where
  | unentered {failure : Failure} : Beginning mode c isolation start (.error failure) start
  | unopened {failure : Failure} {t : Session σ}
      (stops : (c.acquire mode).observe start = (.error failure, t)) :
      Beginning mode c isolation start (.error failure) t
  | unbegun {opened : Bool} {failure : Failure} {t u : Session σ}
      (opens : (c.acquire mode).observe start = (.ok opened, t))
      (stops : (beginNative mode c isolation ⟨t.nextSerial⟩).observe (serialized t) =
        (.error failure, u)) :
      Beginning mode c isolation start (.error failure) (releaseAfterFailure mode c u).2
  | begun {opened : Bool} {native : NativeTransaction} {t u : Session σ}
      (opens : (c.acquire mode).observe start = (.ok opened, t))
      (begins : (beginNative mode c isolation ⟨t.nextSerial⟩).observe (serialized t) =
        (.ok native, u)) :
      Beginning mode c isolation start (.ok (wrap c native ⟨t.nextSerial⟩ true u).1)
        (wrap c native ⟨t.nextSerial⟩ true u).2

theorem start_beginning (mode : Mode) (c : ConnectionId) (isolation : IsolationLevel)
    (s : Session σ) :
    Beginning mode c isolation s ((start mode c isolation).observe s).1
      ((start mode c isolation).observe s).2 := by
  unfold start
  rw [Attempt.observe_bind_apply, ensureNone_apply]
  cases (s.connections c).ambient with
  | some a => exact .unentered
  | none =>
    dsimp only
    rw [Attempt.observe_bind_apply, Attempt.checkpoint, Attempt.observe_get_bind]
    cases mode.checkpoint s.scene.cancelled with
    | error failure => exact .unentered
    | ok _ =>
      dsimp only [Attempt.observe_ofOutcome, Engine.pure_apply]
      rcases opens : (c.acquire mode).observe s with ⟨failure | opened, t⟩
      · rw [Attempt.observe_bind_error opens]
        exact .unopened opens
      · have minted : Engine.mint t = (t.nextSerial, serialized t) := rfl
        rw [Attempt.observe_bind_ok opens, Attempt.observe_lift_bind, minted,
          Attempt.observe_outcome_bind]
        rcases begins : (beginNative mode c isolation ⟨t.nextSerial⟩).observe (serialized t) with
          ⟨failure | native, u⟩
        · exact .unbegun opens begins
        · exact .begun opens begins

end Transaction

end SqlExecution
