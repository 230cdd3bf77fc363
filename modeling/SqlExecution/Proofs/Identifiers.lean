import SqlExecution.Proofs.Governing

/-! Identifiers of executions. The identifier behind a ticket is minted when the first event asks
for it, and from then on stays with the ticket. -/

namespace SqlExecution

variable {σ : Type}

namespace Session

/-- The identifier behind a ticket, or else the one that is minted next. -/
def idFor (t : Ticket) (s : Session σ) : CommandId := (s.commandIds t).getD ⟨s.nextCommand⟩

/-- The session once the identifier behind a ticket is minted. -/
def identified (t : Ticket) (s : Session σ) : Session σ :=
  match s.commandIds t with
  | some _ => s
  | none => ({ s with nextCommand := s.nextCommand + 1 } : Session σ).setCommandId t ⟨s.nextCommand⟩

variable {t : Ticket} {s : Session σ}

theorem identified_of_some {id : CommandId} (minted : s.commandIds t = some id) :
    s.identified t = s := by simp [identified, minted]

theorem idFor_of_some {id : CommandId} (minted : s.commandIds t = some id) : s.idFor t = id := by
  simp [idFor, minted]

@[simp] theorem commandIds_identified (t : Ticket) (s : Session σ) :
    (s.identified t).commandIds = fun i => if i = t then some (s.idFor t) else s.commandIds i := by
  cases minted : s.commandIds t with
  | none => simp [identified, idFor, minted, setCommandId]
  | some id =>
    rw [identified_of_some minted, idFor_of_some minted]
    funext i
    split
    · next same => rw [same, minted]
    · rfl

@[simp] theorem nextCommand_identified (t : Ticket) (s : Session σ) :
    (s.identified t).nextCommand =
      if (s.commandIds t).isSome then s.nextCommand else s.nextCommand + 1 := by
  unfold identified
  cases s.commandIds t <;> rfl

theorem identified_eq (t : Ticket) (s : Session σ) :
    s.identified t = { s with
      commandIds := (s.identified t).commandIds
      nextCommand := (s.identified t).nextCommand } := by
  unfold identified
  cases s.commandIds t <;> rfl

end Session

theorem Engine.commandId_eq (t : Ticket) (s : Session σ) :
    commandId t s = (s.idFor t, s.identified t) := by
  have asked : commandId t s = (match s.commandIds t with
      | some id => return id
      | none => do
        let id ← mintCommand
        modify (·.setCommandId t id)
        return id : Engine σ CommandId) s := rfl
  rw [asked]
  unfold Session.idFor Session.identified
  cases s.commandIds t <;> rfl

theorem ExecutionInfo.event_eq (info : ExecutionInfo) (s : Session σ) :
    info.event s = (info.eventAs (s.idFor info.ticket), s.identified info.ticket) := by
  unfold event
  rw [Engine.bind_apply, Engine.commandId_eq]
  rfl

end SqlExecution
