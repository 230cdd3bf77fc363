import SqlExecution.Proofs.CommandLife

/-! Operations of programs that are uses of a command. They do what the use does to the command that
is kept under the name, and leave everything else that is kept as it is. -/

namespace SqlExecution

variable {σ : Type}

namespace CommandUse

/-- What is kept of the command after the use. -/
def leaves (c : Command σ) : CommandUse σ → Option (Command σ)
  | drop => none
  | _ => some c

end CommandUse

namespace Operation

/-- The use of a command that the operation is, and the name that the command is kept under. -/
def use? : Operation σ → Option (String × CommandUse σ)
  | populate name s => some (name, .populate s)
  | dropCommand name => some (name, .drop)
  | executeNonQuery name r mode => some (name, .nonQuery mode r)
  | executeScalar name r mode => some (name, .scalar mode r)
  | executeReader name r mode => some (name, .reader mode r)
  | read name mode => some (name, .read mode)
  | nextResult name mode => some (name, .nextResult mode)
  | getValue name ordinal => some (name, .getValue ordinal)
  | isNull name ordinal => some (name, .isNull ordinal)
  | columnName name ordinal => some (name, .columnName ordinal)
  | disposeReader name mode => some (name, .dispose mode)
  | _ => none

/-- The workspace after a use of the command under a name. -/
structure Uses [Driver σ] (use : CommandUse σ) (name : String) (c : Command σ) (w : Workspace σ)
    (answer : Answer σ) (w' : Workspace σ) : Prop where
  answer : answer = (use.perform c w.session).1.1
  session : w'.session = (use.perform c w.session).2
  transactions : w'.transactions = w.transactions
  kept : Named.find? name w'.commands = use.leaves (use.perform c w.session).1.2
  others {other : String} (distinct : other ≠ name) :
    Named.find? other w'.commands = Named.find? other w.commands

variable [Driver σ] {w : Workspace σ} {name : String} {c : Command σ}

omit [Driver σ] in
theorem withCommand_of_find (keeps : Named.find? name w.commands = some c)
    (act : Command σ → Program σ (Answer σ)) : Program.withCommand name act w = act c w := by
  unfold Program.withCommand
  rw [Program.bind_apply, Program.get_apply]
  dsimp only
  rw [keeps]

omit [Driver σ] in
theorem withCommand_of_none (missing : Named.find? name w.commands = none)
    (act : Command σ → Program σ (Answer σ)) :
    Program.withCommand name act w = (.noCommand, w) := by
  unfold Program.withCommand
  rw [Program.bind_apply, Program.get_apply]
  dsimp only
  rw [missing]
  rfl

theorem uses_of_with {use : CommandUse σ} {op : Operation σ}
    {act : Command σ → Program σ (Answer σ)}
    (performs : op.perform w = Program.withCommand name act w)
    (keeps : Named.find? name w.commands = some c)
    (uses : Uses use name c w (act c w).1 (act c w).2) :
    Uses use name c w (op.perform w).1 (op.perform w).2 := by
  rw [performs, withCommand_of_find keeps]
  exact uses

theorem uses_of_kept {use : CommandUse σ} {answer : Answer σ} {w' : Workspace σ}
    (leaves : ∀ c', use.leaves c' = some c')
    (ends : (answer, w') = ((use.perform c w.session).1.1,
      { w with
        session := (use.perform c w.session).2
        commands := Named.insert name (use.perform c w.session).1.2 w.commands })) :
    Uses use name c w answer w' := by
  cases ends
  exact ⟨rfl, rfl, rfl, by rw [leaves, Named.find?_insert_same],
    fun distinct => Named.find?_insert_of_ne distinct _ _⟩

theorem uses_reading {use : CommandUse σ} {act : DataReader σ → Engine σ (Answer σ × DataReader σ)}
    (leaves : ∀ c', use.leaves c' = some c') (performs : use.perform c = c.onReader act)
    (keeps : Named.find? name w.commands = some c) :
    Uses use name c w (Program.withReader name act w).1 (Program.withReader name act w).2 := by
  unfold Program.withReader
  rw [withCommand_of_find keeps]
  cases reader : c.reader with
  | none =>
    have stays : use.perform c w.session = ((.noReader, c), w.session) := by
      rw [performs]
      exact Command.onReader_of_none reader _
    dsimp only
    refine ⟨by rw [stays]; rfl, by rw [stays]; rfl, rfl, ?_, fun _ => rfl⟩
    rw [stays, leaves]
    exact keeps
  | some r =>
    refine uses_of_kept leaves ?_
    rw [performs, Command.onReader_of_some reader]
    rfl

theorem perform_use {op : Operation σ} {use : CommandUse σ} (is : op.use? = some (name, use))
    (keeps : Named.find? name w.commands = some c) :
    Uses use name c w (op.perform w).1 (op.perform w).2 := by
  cases op <;> cases is
  case populate s => exact uses_of_with rfl keeps (uses_of_kept (fun _ => rfl) rfl)
  case dropCommand =>
    exact uses_of_with rfl keeps ⟨rfl, rfl, rfl, Named.find?_erase_same _ _, fun distinct =>
      Named.find?_erase_of_ne distinct _⟩
  case executeNonQuery r mode =>
    exact uses_of_with rfl keeps ⟨rfl, rfl, rfl, keeps, fun _ => rfl⟩
  case executeScalar r mode =>
    exact uses_of_with rfl keeps ⟨rfl, rfl, rfl, keeps, fun _ => rfl⟩
  case executeReader r mode => exact uses_of_with rfl keeps (uses_of_kept (fun _ => rfl) rfl)
  case read mode => exact uses_reading (fun _ => rfl) rfl keeps
  case nextResult mode => exact uses_reading (fun _ => rfl) rfl keeps
  case getValue ordinal => exact uses_reading (fun _ => rfl) rfl keeps
  case isNull ordinal => exact uses_reading (fun _ => rfl) rfl keeps
  case columnName ordinal => exact uses_reading (fun _ => rfl) rfl keeps
  case disposeReader mode => exact uses_reading (fun _ => rfl) rfl keeps

theorem perform_missing {op : Operation σ} {use : CommandUse σ} (is : op.use? = some (name, use))
    (missing : Named.find? name w.commands = none) : op.perform w = (.noCommand, w) := by
  cases op <;> cases is <;> exact withCommand_of_none missing _

end Operation

end SqlExecution
