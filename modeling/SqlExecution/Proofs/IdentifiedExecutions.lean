import SqlExecution.Proofs.ProgramEvents

/-! The identifiers of executions along programs. Every event of an execution carries the identifier
that ends up behind its ticket, also the disposing event long after it; one is minted just for the
executions that an event is raised of; and no two executions share one. -/

namespace SqlExecution

variable {σ : Type}

namespace Session

/-- Only tickets below a bound have identifiers; those lie below the one that comes next, and no two
tickets share one. -/
structure Numbered (bound : Ticket) (s : Session σ) : Prop where
  handed {ticket : Ticket} {id : CommandId} (minted : s.commandIds ticket = some id) :
    ticket < bound
  counted {ticket : Ticket} {id : CommandId} (minted : s.commandIds ticket = some id) :
    id.serial < s.nextCommand
  distinct {ticket ticket' : Ticket} {id : CommandId} (minted : s.commandIds ticket = some id)
    (minted' : s.commandIds ticket' = some id) : ticket = ticket'

variable {s t : Session σ} {bound : Ticket}

theorem Numbered.mono {bound' : Ticket} (numbered : s.Numbered bound) (le : bound ≤ bound') :
    s.Numbered bound' :=
  ⟨fun is => Nat.lt_of_lt_of_le (numbered.handed is) le, numbered.counted, numbered.distinct⟩

theorem Numbered.identified (numbered : s.Numbered bound) {ticket : Ticket}
    (handed : ticket < bound) :
    (s.identified ticket).Numbered bound := by
  cases minted : s.commandIds ticket with
  | some id => rwa [identified_of_some minted]
  | none =>
    have ids : ∀ {i : Ticket} {id : CommandId}, (s.identified ticket).commandIds i = some id →
        (i = ticket ∧ id = ⟨s.nextCommand⟩) ∨ s.commandIds i = some id := by
      intro i id is
      rw [commandIds_identified] at is
      dsimp only at is
      split at is
      · next same => exact .inl ⟨same, by simpa [idFor, minted] using is.symm⟩
      · exact .inr is
    have next : (s.identified ticket).nextCommand = s.nextCommand + 1 := by simp [minted]
    refine ⟨fun is => ?_, fun is => ?_, fun is is' => ?_⟩
    · rcases ids is with ⟨rfl, _⟩ | before
      · exact handed
      · exact numbered.handed before
    · rw [next]
      rcases ids is with ⟨_, rfl⟩ | before
      · exact Nat.lt_succ_self _
      · exact Nat.lt_succ_of_lt (numbered.counted before)
    · rcases ids is with ⟨rfl, rfl⟩ | before <;> rcases ids is' with ⟨rfl, same⟩ | before'
      · rfl
      · exact absurd (numbered.counted before') (Nat.lt_irrefl _)
      · rw [same] at before
        exact absurd (numbered.counted before) (Nat.lt_irrefl _)
      · exact numbered.distinct before before'

theorem Numbered.speaks {events : CommandEvent → Prop} (numbered : s.Numbered bound)
    (speaks : s.Speaks events t) : t.Numbered bound := by
  refine ⟨fun is => ?_, fun is => ?_, fun is is' => ?_⟩
  all_goals rw [speaks.commandIds] at is
  · exact numbered.handed is
  · rw [speaks.nextCommand]
    exact numbered.counted is
  · rw [speaks.commandIds] at is'
    exact numbered.distinct is is'

theorem Numbered.accounts {info : Option ExecutionInfo} {raised : Prop} (numbered : s.Numbered bound)
    (accounts : s.Accounts info raised t) (handed : ∀ i ∈ info, i.ticket < bound) :
    t.Numbered bound := by
  cases info with
  | none => exact numbered.speaks accounts
  | some info =>
    rcases accounts with ⟨_, silent⟩ | ⟨_, speaks⟩
    · exact numbered.speaks silent
    · exact (numbered.identified (handed info rfl)).speaks speaks

variable {info : Option ExecutionInfo} {raised : Prop} (accounts : s.Accounts info raised t)
include accounts

theorem Accounts.onward : s.Onward t := by
  cases info with
  | none => exact accounts.toOnward
  | some info =>
    rcases accounts with ⟨_, silent⟩ | ⟨_, speaks⟩
    · exact silent.toOnward
    · exact (onward_identified info.ticket s).trans speaks.toOnward

theorem Accounts.keeps {ticket : Ticket} {id : CommandId} (minted : s.commandIds ticket = some id) :
    t.commandIds ticket = some id := by
  cases info with
  | none => rwa [accounts.commandIds]
  | some info =>
    rcases accounts with ⟨_, silent⟩ | ⟨_, speaks⟩
    · rwa [silent.commandIds]
    · rw [speaks.commandIds, commandIds_identified]
      dsimp only
      split
      · next same =>
        rw [same] at minted
        rw [idFor_of_some minted]
      · exact minted

theorem Accounts.minted_iff (ticket : Ticket) :
    (t.commandIds ticket).isSome ↔
      (s.commandIds ticket).isSome ∨ raised ∧ ∃ i ∈ info, i.ticket = ticket := by
  cases info with
  | none => simp [accounts.commandIds]
  | some info =>
    rcases accounts with ⟨unraised, silent⟩ | ⟨raised, speaks⟩
    · simp [silent.commandIds, unraised]
    · rw [speaks.commandIds, commandIds_identified]
      by_cases same : ticket = info.ticket
      · simp [same, raised]
      · simp [same, Ne.symm same]

theorem Accounts.tells : ∀ e ∈ s.added t, e.Plain ∨
    ∃ i ∈ info, ∃ id, t.commandIds i.ticket = some id ∧ e.Tells (i.eventAs id) := by
  intro e member
  cases info with
  | none => exact .inl (Silent.plain accounts member)
  | some info =>
    rcases accounts with ⟨_, silent⟩ | ⟨_, speaks⟩
    · exact .inl (silent.plain member)
    · have same : (s.identified info.ticket).added t = s.added t := by
        rw [added, added, identified_eq]
        rfl
      obtain plain | ⟨event, is, tells⟩ := speaks.tells e (same ▸ member)
      · exact .inl plain
      · refine .inr ⟨info, rfl, s.idFor info.ticket, ?_, is ▸ tells⟩
        rw [speaks.commandIds, commandIds_identified]
        exact if_pos rfl

end Session

namespace Operation

variable [Driver σ]

/-- An event is raised for the execution with the ticket: while it runs, or when its reader is
disposed. -/
def Raises (ticket : Ticket) (op : Operation σ) (w : Workspace σ) : Prop :=
  (w.session.Heard (op.overture w) ∧ ∃ i ∈ op.begins w, i.ticket = ticket) ∨
    ∃ r ∈ op.disposes w, r.Announces (op.overture w).traceLimit ∧
      ∃ i ∈ r.execution?, i.ticket = ticket

theorem raises_iff_minted (ticket : Ticket) (op : Operation σ) (w : Workspace σ) :
    ((op.perform w).2.session.commandIds ticket).isSome ↔
      (w.session.commandIds ticket).isSome ∨ op.Raises ticket w := by
  have accounts := op.perform_accounts w
  rw [accounts.disposes.minted_iff, accounts.executes.accounts.minted_iff, or_assoc]
  refine or_congr_right (or_congr_right ?_)
  cases op.disposes w <;> simp

theorem keeps_minted (op : Operation σ) (w : Workspace σ) {ticket : Ticket} {id : CommandId}
    (minted : w.session.commandIds ticket = some id) :
    (op.perform w).2.session.commandIds ticket = some id :=
  (op.perform_accounts w).disposes.keeps ((op.perform_accounts w).executes.accounts.keeps minted)

theorem kept_of_disposes {op : Operation σ} {w : Workspace σ} {r : DataReader σ}
    (disposes : op.disposes w = some r) :
    ∃ name c, Named.find? name w.commands = some c ∧ c.reader = some r := by
  have used : ((op.commandUse? w).bind fun x => x.1.disposes x.2 w.session) = some r →
      ∃ name c, Named.find? name w.commands = some c ∧ c.reader = some r := by
    intro disposes
    obtain ⟨⟨use, c⟩, found, gone⟩ := Option.bind_eq_some_iff.1 disposes
    obtain ⟨⟨name, use'⟩, _, found⟩ := Option.bind_eq_some_iff.1 found
    obtain ⟨c', kept, same⟩ := Option.map_eq_some_iff.1 found
    cases same
    refine ⟨name, c, kept, ?_⟩
    unfold CommandUse.disposes at gone
    split at gone
    · exact gone
    · cases gone
  cases op with
  | declare name s =>
    obtain ⟨c, kept, reader⟩ := Option.bind_eq_some_iff.1 disposes
    exact ⟨name, c, kept, reader⟩
  | _ => exact used disposes

end Operation

namespace Program

variable [Driver σ]

/-- The executions that operations begin, in order. -/
def executions : List (Operation σ) → Workspace σ → List ExecutionInfo
  | [], _ => []
  | op :: ops, w => (op.begins w).toList ++ executions ops (op.perform w).2

/-- Some operation raises an event for the execution with the ticket. -/
def Raised (ticket : Ticket) : List (Operation σ) → Workspace σ → Prop
  | [], _ => False
  | op :: ops, w => op.Raises ticket w ∨ Raised ticket ops (op.perform w).2

/-- What is known of the executions that were begun. -/
structure Ledger (executions : List ExecutionInfo) (w : Workspace σ) : Prop where
  numbered : w.session.Numbered w.session.nextTicket
  ordered : executions.Pairwise (·.ticket < ·.ticket)
  handed : ∀ i ∈ executions, i.ticket < w.session.nextTicket
  held {name : String} {c : Command σ} {info : ExecutionInfo}
    (keeps : Named.find? name w.commands = some c) (bound : c.execution? = some info) :
    info ∈ executions

omit [Driver σ] in
theorem Ledger.begun (scene : Scene σ) : Ledger [] (.begun scene) :=
  ⟨⟨nofun, nofun, nofun⟩, .nil, nofun, nofun⟩

theorem Ledger.disposed {executions : List ExecutionInfo} {w : Workspace σ}
    (ledger : Ledger executions w) {op : Operation σ} {r : DataReader σ}
    (disposes : op.disposes w = some r) {info : ExecutionInfo} (bound : r.execution? = some info) :
    info ∈ executions := by
  obtain ⟨name, c, kept, reader⟩ := Operation.kept_of_disposes disposes
  exact ledger.held kept (by rw [Command.execution?, reader]; exact bound)

theorem Ledger.perform {executions : List ExecutionInfo} {w : Workspace σ}
    (ledger : Ledger executions w) (op : Operation σ) :
    Ledger (executions ++ (op.begins w).toList) (op.perform w).2 := by
  have accounts := op.perform_accounts w
  have before := accounts.executes.accounts.onward.nextTicket
  have after := accounts.disposes.onward.nextTicket
  have tickets := Nat.le_trans before after
  have begun : ∀ i ∈ op.begins w, i.ticket = w.session.nextTicket ∧
      i.ticket < (op.perform w).2.session.nextTicket := fun i member => by
    obtain ⟨same, later⟩ := accounts.executes.ticket i member
    exact ⟨same, same ▸ Nat.lt_of_lt_of_le later after⟩
  refine ⟨?_, ?_, fun i member => ?_, fun {name c info} keeps bound => ?_⟩
  · have during := (ledger.numbered.mono tickets).accounts accounts.executes.accounts
      fun i member => (begun i member).2
    refine during.accounts accounts.disposes fun i member => ?_
    obtain ⟨r, disposes, bound⟩ := Option.bind_eq_some_iff.1 member
    exact Nat.lt_of_lt_of_le (ledger.handed i (ledger.disposed disposes bound)) tickets
  · refine List.pairwise_append.2 ⟨ledger.ordered, ?_, fun i member j begins => ?_⟩
    · cases op.begins w <;> simp
    · rw [Option.mem_toList] at begins
      rw [(begun j begins).1]
      exact ledger.handed i member
  · rcases List.mem_append.1 member with member | begins
    · exact Nat.lt_of_lt_of_le (ledger.handed i member) tickets
    · exact (begun i (Option.mem_toList.1 begins)).2
  · rcases accounts.bound keeps bound with ⟨name, c, kept, before⟩ | begins
    · exact List.mem_append_left _ (ledger.held kept before)
    · exact List.mem_append_right _ (Option.mem_toList.2 begins)

theorem Ledger.run {known : List ExecutionInfo} {w : Workspace σ} (ledger : Ledger known w)
    (ops : List (Operation σ)) : Ledger (known ++ executions ops w) (Program.run ops w).2 := by
  induction ops generalizing known w with
  | nil => rwa [executions, List.append_nil]
  | cons op ops ih =>
    rw [run_cons, executions, ← List.append_assoc]
    exact ih (ledger.perform op)

theorem run_keeps_minted (ops : List (Operation σ)) {w : Workspace σ} {ticket : Ticket}
    {id : CommandId} (minted : w.session.commandIds ticket = some id) :
    (run ops w).2.session.commandIds ticket = some id := by
  induction ops generalizing w with
  | nil => exact minted
  | cons op ops ih =>
    rw [run_cons]
    exact ih (op.keeps_minted w minted)

theorem raised_iff_minted (ticket : Ticket) (ops : List (Operation σ)) (w : Workspace σ) :
    ((run ops w).2.session.commandIds ticket).isSome ↔
      (w.session.commandIds ticket).isSome ∨ Raised ticket ops w := by
  induction ops generalizing w with
  | nil => simp [Raised]
  | cons op ops ih =>
    rw [run_cons, Raised, ← or_assoc, ← op.raises_iff_minted ticket w]
    exact ih (op.perform w).2

/-- The workspace that operations lead to from a scene on. -/
def reached (scene : Scene σ) (ops : List (Operation σ)) : Workspace σ :=
  (run ops (.begun scene)).2

/-- The event of an execution that carries the identifier behind its ticket. -/
def Identified (w : Workspace σ) (info : ExecutionInfo) (e : Entry) : Prop :=
  ∃ id, w.session.commandIds info.ticket = some id ∧ e.Tells (info.eventAs id)

/-- What identifies the executions of a program and their events. -/
structure Identifies (scene : Scene σ) (ops : List (Operation σ)) : Prop where
  /-- While an execution runs, every event is of it and carries the identifier that it ends up
  with. -/
  running {before after : List (Operation σ)} {op : Operation σ}
    (split : ops = before ++ op :: after) :
    ∀ e ∈ (reached scene before).session.added (op.overture (reached scene before)),
      e.Plain ∨ ∃ info ∈ op.begins (reached scene before), Identified (reached scene ops) info e
  /-- What is told afterwards is of the execution whose reader is disposed. -/
  disposing {before after : List (Operation σ)} {op : Operation σ}
    (split : ops = before ++ op :: after) :
    ∀ e ∈ (op.overture (reached scene before)).added (reached scene (before ++ [op])).session,
      e.Plain ∨ ∃ r ∈ op.disposes (reached scene before), ∃ info ∈ r.execution?,
        Identified (reached scene ops) info e
  /-- The reader that is disposed is of an execution that was begun by an earlier operation. -/
  earlier {before after : List (Operation σ)} {op : Operation σ}
    (split : ops = before ++ op :: after) {r : DataReader σ} {info : ExecutionInfo}
    (disposes : r ∈ op.disposes (reached scene before)) (bound : info ∈ r.execution?) :
    info ∈ executions before (.begun scene)
  minted (ticket : Ticket) :
    ((reached scene ops).session.commandIds ticket).isSome ↔ Raised ticket ops (.begun scene)
  distinct : (executions ops (.begun scene)).Pairwise fun i j =>
    i.ticket ≠ j.ticket ∧ ∀ id, (reached scene ops).session.commandIds i.ticket = some id →
      (reached scene ops).session.commandIds j.ticket ≠ some id

/-- Over every program, all events of an execution carry one identifier with the same connection,
method, source and context; it is minted exactly when the first of them is raised; and no other
execution has it. -/
theorem identifies (scene : Scene σ) (ops : List (Operation σ)) : Identifies scene ops := by
  have later : ∀ {before after : List (Operation σ)} {op : Operation σ},
      ops = before ++ op :: after →
      reached scene ops = (run after (op.perform (reached scene before)).2).2 := fun split => by
    rw [split, reached, run_append, run_cons]
    rfl
  have ledger := (Ledger.begun scene).run ops
  rw [List.nil_append] at ledger
  -- An identifier that was minted stays, so the one that an event carried is the one in the end.
  refine ⟨fun {before after op} split e member => ?_, fun {before after op} split e member => ?_,
    fun {before after op} split r info disposes bound => ?_, fun ticket => ?_, ?_⟩
  · have accounts := op.perform_accounts (reached scene before)
    refine (accounts.executes.accounts.tells e member).imp id
      fun ⟨info, begins, id, is, tells⟩ => ?_
    refine ⟨info, begins, id, ?_, tells⟩
    rw [later split]
    exact run_keeps_minted after (accounts.disposes.keeps is)
  · have accounts := op.perform_accounts (reached scene before)
    have here : (reached scene (before ++ [op])) = (op.perform (reached scene before)).2 := by
      rw [reached, run_append, run_cons]
      rfl
    rw [here] at member
    refine (accounts.disposes.tells e member).imp id fun ⟨info, bound, id, is, tells⟩ => ?_
    obtain ⟨r, disposes, bound⟩ := Option.bind_eq_some_iff.1 bound
    refine ⟨r, disposes, info, bound, id, ?_, tells⟩
    rw [later split]
    exact run_keeps_minted after is
  · have known := (Ledger.begun scene).run before
    rw [List.nil_append] at known
    exact known.disposed disposes bound
  · rw [reached, raised_iff_minted]
    simp [Workspace.begun]
  · refine ledger.ordered.imp fun {i j} before => ⟨Nat.ne_of_lt before, fun id is is' => ?_⟩
    exact Nat.ne_of_lt before (ledger.numbered.distinct is is')

end Program

end SqlExecution
