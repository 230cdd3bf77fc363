import SqlExecution.Proofs.Governing
import SqlExecution.Proofs.Holdings
import SqlExecution.Proofs.Stages

/-! Whole calls, as their hooks govern them. Of what a call adds to the journal, the hooks around an
operation and the operation itself are exactly as the hooks govern them, and the caller gets what
the last hook made of the result, unless releasing the command fails. -/

namespace SqlExecution

variable {σ α β : Type}

open Session

namespace Hook

def ofCreation : Hook → Bool
  | commandCreating => true
  | commandCreated => true
  | _ => false

def ofExecution : Hook → Bool
  | executing _ => true
  | executed _ => true
  | _ => false

def ofBeginning : Hook → Bool
  | transactionStarting => true
  | transactionStarted => true
  | _ => false

end Hook

namespace Facet

def creation : Facet where
  sees
    | .native (.createCommand _) => true
    | .hook d => d.hook.ofCreation
    | _ => false

def execution : Facet where
  sees
    | .native (.execute _ _ _) => true
    | .hook d => d.hook.ofExecution
    | _ => false

def beginning : Facet where
  sees
    | .native (.begin _ _ _) => true
    | .hook d => d.hook.ofBeginning
    | _ => false

theorem creation_hooksOnly : creation.HooksOnly Hook.ofCreation := fun _ other => other

theorem execution_hooksOnly : execution.HooksOnly Hook.ofExecution := fun _ other => other

theorem beginning_hooksOnly : beginning.HooksOnly Hook.ofBeginning := fun _ other => other

theorem creation_focused : creation.Focused :=
  .of_hooksOnly (fun call unhooked => by cases call <;> first | rfl | cases unhooked)
    creation_hooksOnly rfl

theorem execution_focused : execution.Focused :=
  .of_hooksOnly (fun call unhooked => by cases call <;> first | rfl | cases unhooked)
    execution_hooksOnly rfl

theorem beginning_focused : beginning.Focused :=
  .of_hooksOnly (fun call unhooked => by cases call <;> first | rfl | cases unhooked)
    beginning_hooksOnly rfl

end Facet

theorem Facet.reached_refines_creation : Facet.reached.Refines .creation := by
  rintro (call | d | record | w | text) seen <;> first | rfl | cases seen

theorem Facet.reached_refines_execution : Facet.reached.Refines .execution := by
  rintro (call | d | record | w | text) seen <;> first | rfl | cases seen

theorem Facet.reached_refines_beginning : Facet.reached.Refines .beginning := by
  rintro (call | d | record | w | text) seen <;> first | rfl | cases seen

/-- After a ticket was handed out. -/
abbrev Session.ticketed (s : Session σ) : Session σ := { s with nextTicket := s.nextTicket + 1 }

namespace Statement

variable [Driver σ]

/-- The command that is executed, made from the command that the created hooks left. -/
def outfit (s : Statement) (r : Request σ) (start : Session σ)
    (made : NativeCommand × Result Unit) : Outcome NativeCommand :=
  let (c, result) := s.equip r.values (start.connections r.connection) made.1 made.2
  .ofResult (result.map fun _ => c)

/-- The creating and created hooks govern how a command is created: of that, nothing else is seen in
between, and the command that is prepared is the one that they left. -/
def CreationGoverned (s : Statement) (r : Request σ) (info : ExecutionInfo) (start last : Session σ)
    (prepared : Outcome NativeCommand) : Prop :=
  ∃ commandId ms made scene,
    (Guarded.creation (info.eventAs commandId)).Governs
      (Logger.hearers (r.logger.filter (·.raisesCreate start.traceLimit))) start.scene ms made
      scene ∧
    start.Shows .creation ms last ∧
    prepared = made.bind fun made => s.outfit r start (NativeCommand.hooked made)

/-- The executing and executed hooks govern an execution that has its open: of executing, nothing
else is seen in between, and the call ends with what becomes of the result that they left. One that
does not get its open executes nothing. -/
def ExecutionGoverned (shape : Shape σ α) (s : Statement) (mode : Mode) (r : Request σ)
    (start last : Session σ) (finish : Execution α → Session σ → Outcome β) (ends : Outcome β) :
    Prop :=
  match (s.opening shape.method mode r).observe start with
  | (.error failure, _) => start.Shows .execution [] last ∧ ends = .error failure
  | (.ok (setting, c, _), u) => ∃ commandId ms result,
    (shape.execution mode c (setting.info.eventAs commandId)).Governs
      (Logger.hearers (r.logger.filter (·.raisesExecute start.traceLimit))) u.scene ms result
      ((run shape mode setting.logger setting.info c).observe u).2.scene ∧
    start.Shows .execution ms last ∧
    ends = (result.bind fun result => result).bind fun a => finish ⟨a, c, setting.info⟩
      ((run shape mode setting.logger setting.info c).observe u).2

theorem yielded_governed (r : Request σ) (info : ExecutionInfo) (s : Session σ) :
    ∃ commandId ms made,
      s.Governed (.creation (info.eventAs commandId))
        (Logger.hearers (r.logger.filter (·.raisesCreate s.traceLimit))) ms made
        ((yielded r info).observe s).2 ∧
      ((yielded r info).observe s).1 = made.map NativeCommand.hooked := by
  unfold yielded
  rw [Attempt.observe_get_bind]
  exact obtain_governed info _ s

theorem equipped_apply (s : Statement) (r : Request σ) (info : ExecutionInfo) (start : Session σ) :
    ((s.equipped r info).observe start).1 =
      ((yielded r info).observe start).1.bind (s.outfit r start) := by
  have connections := (only_yielded r info start).connections
  unfold equipped outfit
  rw [Attempt.observe_bind_apply]
  generalize (yielded r info).observe start = yields at connections ⊢
  obtain ⟨failure | ⟨c, hooked⟩, t⟩ := yields
  · rfl
  · dsimp only at connections ⊢
    rw [Attempt.observe_get_bind, connections, Attempt.observe_bind_apply, Attempt.ofResult,
      Attempt.observe_ofOutcome]
    dsimp only [Except.bind]
    rcases s.equip r.values (start.connections r.connection) c hooked with ⟨c', _ | _⟩ <;> rfl

theorem hides_equipped_of_yielded {f : Facet} (s : Statement) (r : Request σ) (info : ExecutionInfo)
    (start : Session σ) :
    Hides f ((yielded r info).observe start).2 ((s.equipped r info).observe start).2 :=
  Attempt.Obeys.after (fun _ => Attempt.obeys_get.bind fun _ =>
    (Attempt.obeys_ofOutcome _).bind fun _ => .pure _) _ start

theorem hides_opening_of_yielded {f : Facet} (focused : f.Focused) {s : Statement} {method : Method}
    {mode : Mode} {r : Request σ} {start t : Session σ} {setting : Setting σ}
    (enters : (s.enter method mode r).observe start = (.ok setting, t)) :
    Hides f ((yielded r setting.info).observe t).2 ((s.opening method mode r).observe start).2 := by
  have opens : Hides f ((s.equipped r setting.info).observe t).2
      ((s.opening method mode r).observe start).2 := by
    unfold opening
    rw [Attempt.observe_bind_ok enters]
    exact Attempt.Obeys.after (fun _ =>
      (obeys_openFor (focused.hides_acquire mode _)).bind fun _ => .pure _) _ t
  exact (s.hides_equipped_of_yielded r setting.info t).trans opens

theorem creationGoverned_of_hidden {r : Request σ} {info : ExecutionInfo} {start last : Session σ}
    (s : Statement)
    (hidden : Hides .creation
      ((yielded r info).observe start.ticketed).2 last) :
    s.CreationGoverned r info start last
      ((s.equipped r info).observe start.ticketed).1 := by
  obtain ⟨commandId, ms, made, governed, ends⟩ :=
    yielded_governed r info start.ticketed
  refine ⟨commandId, ms, made, _, governed.governs, ?_, ?_⟩
  · have shows := governed.shows_all Facet.reached_refines_creation (fun _ _ _ => rfl) rfl
      fun _ _ _ => rfl
    exact Shows.after (.of_journal_eq rfl) (shows.before hidden)
  · rw [equipped_apply, ends]
    cases made <;> rfl

/-- The same of an execution, which prepares a command once it is entered. -/
def PreparationGoverned (s : Statement) (method : Method) (mode : Mode) (r : Request σ)
    (start last : Session σ) : Prop :=
  match (s.enter method mode r).observe start with
  | (.error _, _) => start.Shows .creation [] last
  | (.ok setting, t) =>
    s.CreationGoverned r setting.info start last ((s.equipped r setting.info).observe t).1

theorem PreparationGoverned.before {s : Statement} {method : Method} {mode : Mode} {r : Request σ}
    {start last last' : Session σ} (h : s.PreparationGoverned method mode r start last)
    (hidden : Hides .creation last last') : s.PreparationGoverned method mode r start last' := by
  unfold PreparationGoverned at *
  generalize (s.enter method mode r).observe start = enters at h ⊢
  obtain ⟨failure | setting, t⟩ := enters
  · exact Shows.before h hidden
  · obtain ⟨commandId, ms, made, scene, governs, shows, prepared⟩ := h
    exact ⟨commandId, ms, made, scene, governs, shows.before hidden, prepared⟩

theorem preparationGoverned {shape : Shape σ α} (faithful : shape.Faithful) (s : Statement)
    (mode : Mode) (r : Request σ) (start : Session σ) {rest : Execution α → Attempt σ β}
    (hides : ∀ execution, Attempt.Obeys (Hides .creation) (rest execution)) :
    s.PreparationGoverned shape.method mode r start
      ((s.execute shape mode r >>= rest).observe start).2 := by
  have abandoned := execute_after (R := Hides .creation)
    (fun logger info c e opened => Facet.creation_focused.hides_abandon
      (hears_of_hooksOnly Facet.creation_hooksOnly rfl)
      mode logger info c e opened) shape s r start
  have runs : ∀ setting : Setting σ, ∀ c, Attempt.Obeys (Hides .creation)
      (run shape mode setting.logger setting.info c) := fun setting c =>
    obeys_run faithful (fun _ => hears_of_hooksOnly Facet.creation_hooksOnly rfl)
      (fun _ => hears_of_hooksOnly Facet.creation_hooksOnly rfl)
      (fun l _ => eachHook_hides l) (allows_hides rfl)
  have performs : Hides .creation ((s.opening shape.method mode r).observe start).2
      ((s.performing shape mode r).observe start).2 :=
    Attempt.Obeys.after (fun (setting, c, _) => (runs setting c).bind fun _ => .pure _) _ start
  have after := (performs.trans abandoned).trans
    (Attempt.Obeys.after hides (s.execute shape mode r) start)
  unfold PreparationGoverned
  rcases enters : (s.enter shape.method mode r).observe start with ⟨failure | setting, t⟩
  · have entered := s.obeys_enter (R := Hides .creation) shape.method mode r start
    have opens : (s.opening shape.method mode r).observe start = (.error failure, t) :=
      Attempt.observe_bind_error enters _
    rw [opens] at after
    rw [enters] at entered
    exact entered.trans after
  · obtain ⟨info, _, rfl⟩ := enter_ok enters
    have opens := hides_opening_of_yielded Facet.creation_focused enters
    exact creationGoverned_of_hidden s (opens.trans after)

section Execution

theorem hides_opening (s : Statement) (method : Method) (mode : Mode) (r : Request σ) :
    Attempt.Obeys (Hides .execution) (s.opening method mode r) := by
  refine obeys_opening (fun info => ?_) (Facet.execution_focused.hides_acquire mode _) s method
  exact obeys_yielded (allows_hides rfl) (hears_of_hooksOnly Facet.execution_hooksOnly rfl)
    (hears_of_hooksOnly Facet.execution_hooksOnly rfl) fun l _ => eachHook_hides l

variable {shape : Shape σ α} (plain : shape.Plain) (s : Statement) (mode : Mode)
  (r : Request σ) (start : Session σ)
include plain

theorem executionGoverned {rest : Execution α → Attempt σ β}
    (hides : ∀ execution, Attempt.Obeys (Hides .execution) (rest execution)) :
    ExecutionGoverned shape s mode r start ((s.execute shape mode r >>= rest).observe start).2
      (fun execution v => ((rest execution).observe v).1)
      ((s.execute shape mode r >>= rest).observe start).1 := by
  have abandoned := execute_after (R := Hides .execution)
    (fun logger info c e opened => Facet.execution_focused.hides_abandon
      (hears_of_hooksOnly Facet.execution_hooksOnly rfl)
      mode logger info c e opened) shape s r start
  have after := abandoned.trans (Attempt.Obeys.after hides (s.execute shape mode r) start)
  have outcome := execute_outcome shape s mode r start
  have opening := hides_opening s shape.method mode r start
  unfold ExecutionGoverned
  rcases opens : (s.opening shape.method mode r).observe start with
    ⟨failure | ⟨setting, c, opened⟩, u⟩
  all_goals rw [opens] at opening
  · rw [performing_of_unopened opens] at after outcome
    exact ⟨opening.trans after, Attempt.observe_bind_fst_error outcome rest⟩
  · have performs := performing_of_opened opens
    obtain ⟨commandId, ms, result, governed, ends⟩ :=
      run_governed plain mode setting.logger setting.info c u
    have shows := governed.shows_all Facet.reached_refines_execution (fun _ _ _ => rfl) rfl
      fun _ _ _ => rfl
    refine ⟨commandId, ms, result, ?_, ?_, ?_⟩
    · rw [← (opening_ok opens).2]
      exact governed.governs
    · rw [performs] at after
      exact (opening.trans shows).before after
    · rw [← ends]
      rcases runs : (run shape mode setting.logger setting.info c).observe u with ⟨failure | a, v⟩
      all_goals rw [runs] at performs
      · rw [performs] at outcome
        exact Attempt.observe_bind_fst_error outcome rest
      · exact congrArg Prod.fst (Attempt.observe_bind_ok (execute_of_performed performs) rest)

omit plain in
theorem ExecutionGoverned.map {γ : Type} {last last' : Session σ}
    {finish : Execution α → Session σ → Outcome β} {ends : Outcome β} (f : β → γ)
    (hidden : Hides .execution last last')
    (h : ExecutionGoverned shape s mode r start last finish ends) :
    ExecutionGoverned shape s mode r start last' (fun execution v => (finish execution v).map f)
      (ends.map f) := by
  unfold ExecutionGoverned at *
  generalize (s.opening shape.method mode r).observe start = opens at h ⊢
  obtain ⟨failure | ⟨setting, c, opened⟩, u⟩ := opens
  · obtain ⟨shows, rfl⟩ := h
    exact ⟨shows.before hidden, rfl⟩
  · obtain ⟨commandId, ms, result, governs, shows, rfl⟩ := h
    refine ⟨commandId, ms, result, governs, shows.before hidden, ?_⟩
    rcases result with failure | failure | a <;> rfl

end Execution

/-- What a value is handed over as: itself, unless releasing the command fails. -/
def concluded (mode : Mode) (r : Request σ) (execution : Execution α) (v : Session σ) : Outcome α :=
  (execution.command.cleanUp mode r.connection v).1.map fun _ => execution.output

theorem concluding_apply (mode : Mode) (r : Request σ) (execution : Execution α) (v : Session σ) :
    ((concluding mode r execution).observe v).1 = concluded mode r execution v := by
  unfold concluding concluded
  rw [Attempt.observe_lift_bind, Attempt.observe_bind_apply, Attempt.observe_ofOutcome]
  rcases execution.command.cleanUp mode r.connection v with ⟨_ | _, _⟩ <;> rfl

/-- What a cursor is handed over as: the binding of a reader, with the cursor itself or with what it
was loaded into. -/
def delivered (mode : Mode) (r : Request σ) (execution : Execution Cursor) (v : Session σ) :
    Outcome (ReaderBinding σ) :=
  match r.columns with
  | none => .ok ⟨execution.command, .native execution.output, r.logger, execution.info⟩
  | some columns =>
    ((execution.output.load mode columns r.detailedErrors).observe v).1.map fun buffer =>
      ⟨execution.command, .buffered buffer, r.logger, execution.info⟩

theorem delivering_apply (mode : Mode) (r : Request σ) (execution : Execution Cursor)
    (v : Session σ) :
    ((delivering mode r execution).observe v).1 = delivered mode r execution v := by
  unfold delivering delivered
  cases r.columns with
  | none => rfl
  | some columns =>
    dsimp only
    rw [Attempt.observe_outcome_bind]
    rcases (execution.output.load mode columns r.detailedErrors).observe v with ⟨_ | _, _⟩ <;> rfl

theorem executeReader_after {R : Session σ → Session σ → Prop} [ReportingLaw R] {mode : Mode}
    {r : Request σ} (rebinds : ∀ b (reader : DataReader σ), Engine.Obeys R (reader.rebind mode b))
    (c : Command σ) (start : Session σ) :
    R ((c.statement.openCursor mode r).observe start).2 (c.executeReader mode r start).2 := by
  rw [Command.executeReader_apply]
  rcases (c.statement.openCursor mode r).observe start with ⟨failure | b, t⟩
  · exact ReportingLaw.refl t
  · exact rebinds b _ t

section Focused

variable {f : Facet} (focused : f.Focused) (mode : Mode) (r : Request σ)
include focused

theorem hides_concluding (execution : Execution α) :
    Attempt.Obeys (Hides f) (concluding mode r execution) :=
  obeys_concluding (focused.hides_cleanUp mode _ _)

theorem hides_delivering (execution : Execution Cursor) :
    Attempt.Obeys (Hides f) (delivering mode r execution) :=
  obeys_delivering (fun _ => focused.hides_load _ _ _ _) (focused.hides_cleanUp mode _ _)

theorem hides_executeReader (c : Command σ) (start : Session σ) :
    Hides f ((c.statement.openCursor mode r).observe start).2 (c.executeReader mode r start).2 :=
  executeReader_after (fun b reader => focused.hides_rebind mode b reader) c start

end Focused

theorem executeReader_outcome (mode : Mode) (r : Request σ) (c : Command σ) (start : Session σ) :
    (c.executeReader mode r start).1.1 =
      ((c.statement.openCursor mode r).observe start).1.map .ofBinding := by
  rw [Command.executeReader_apply]
  rcases (c.statement.openCursor mode r).observe start with ⟨failure | b, t⟩ <;> rfl

end Statement

namespace Transaction

variable [Driver σ]

/-- The steps before a transaction is begun. -/
def opening (mode : Mode) (c : ConnectionId) : Attempt σ TransactionId := do
  ensureNone c
  Attempt.checkpoint mode
  let _ ← c.acquire mode
  return ⟨← Attempt.lift Engine.mint⟩

def beginning (mode : Mode) (c : ConnectionId) (isolation : IsolationLevel) (id : TransactionId) :
    Attempt σ (Transaction σ) := do
  match ← (beginNative mode c isolation id).outcome with
  | .ok native => Attempt.lift (wrap c native id true)
  | .error failure =>
    Attempt.lift (releaseAfterFailure mode c)
    throw failure

theorem start_eq (mode : Mode) (c : ConnectionId) (isolation : IsolationLevel) :
    start mode c isolation = opening mode c >>= beginning (σ := σ) mode c isolation := by
  unfold opening
  simp only [bind_assoc, pure_bind]
  rfl

omit [Driver σ] in
theorem wrap_native (c : ConnectionId) (native : NativeTransaction) (id : TransactionId)
    (owned : Bool) (s : Session σ) : (wrap c native id owned s).1.native = native := by
  unfold wrap
  simp only [Engine.bind_apply]
  split <;> rfl

theorem hides_beginning_after (mode : Mode) (c : ConnectionId) (isolation : IsolationLevel)
    (id : TransactionId) (s : Session σ) :
    Hides .beginning ((beginNative mode c isolation id).observe s).2
      ((beginning mode c isolation id).observe s).2 := by
  unfold beginning
  rw [Attempt.observe_outcome_bind]
  rcases (beginNative mode c isolation id).observe s with ⟨failure | native, t⟩
  · exact obeys_releaseAfterFailure (Facet.beginning_focused.hides_releaseOutcome mode c) t
  · exact obeys_wrap (R := Hides .beginning) (fun _ => hides_noted rfl)
      (fun _ _ => .of_journal_eq rfl) native id true t

/-- The starting and started hooks govern how a transaction is begun that has its open: of that,
nothing else is seen in between, and the transaction is of what they left. -/
def BeginningGoverned (mode : Mode) (c : ConnectionId) (isolation : IsolationLevel)
    (start : Session σ) (call : Outcome (Transaction σ) × Session σ) : Prop :=
  match (opening mode c).observe start with
  | (.error failure, _) => start.Shows .beginning [] call.2 ∧ call.1 = .error failure
  | (.ok id, u) => ∃ ms result scene,
    (Guarded.beginning mode ⟨c, id, isolation, mode.isAsync⟩).Governs
      (Logger.transactionHearers
        ((u.connections c).logger.filter (·.raisesTransaction u.traceLimit)))
      u.scene ms result scene ∧
    start.Shows .beginning ms call.2 ∧
    call.1.map (·.native) = result.bind fun result => result

theorem beginningGoverned (mode : Mode) (c : ConnectionId) (isolation : IsolationLevel)
    (s : Session σ) :
    BeginningGoverned mode c isolation s ((start mode c isolation).observe s) := by
  have opened : Attempt.Obeys (Hides .beginning) (opening (σ := σ) mode c) :=
    (obeys_ensureNone c).bind fun _ => (Attempt.obeys_checkpoint mode).bind fun _ =>
      (Facet.beginning_focused.hides_acquire mode c).bind fun _ =>
        (Attempt.obeys_lift Engine.obeys_mint).bind fun _ => .pure _
  have hidden := opened s
  unfold BeginningGoverned
  rw [start_eq]
  rcases opens : (opening mode c).observe s with ⟨failure | id, u⟩
  all_goals rw [opens] at hidden
  · rw [Attempt.observe_bind_error opens]
    exact ⟨hidden, rfl⟩
  · rw [Attempt.observe_bind_ok opens]
    obtain ⟨ms, result, governed, ends⟩ := beginNative_governed mode c isolation id u
    have shows := governed.shows_all Facet.reached_refines_beginning (fun _ _ _ => rfl) rfl
      fun _ _ _ => rfl
    refine ⟨ms, result, _, governed.governs, ?_, ?_⟩
    · exact (hidden.trans shows).before (hides_beginning_after mode c isolation id u)
    · rw [← ends]
      unfold beginning
      rw [Attempt.observe_outcome_bind]
      rcases (beginNative mode c isolation id).observe u with ⟨failure | native, v⟩
      · rfl
      · exact congrArg Except.ok (wrap_native c native id true v)

end Transaction

namespace Statement

variable [Driver σ]

theorem createCommand_governed (s : Statement) (method : Method) (r : Request σ)
    (start : Session σ) :
    s.CreationGoverned r (r.info start.nextTicket method .blocking) start
      (s.createCommand method r start).2 (s.createCommand method r start).1.1 := by
  let info := r.info start.nextTicket method .blocking
  have ends : s.createCommand method r start =
      ((((s.prepare .blocking r info).observe start.ticketed).1,
        ((s.prepare .blocking r info).observe start.ticketed).2.commandIds start.nextTicket),
        ((s.prepare .blocking r info).observe start.ticketed).2) := rfl
  have equips := s.hides_equipped_of_yielded (f := .creation) r info start.ticketed
  have prepares := prepare_after (R := Hides .creation)
    (fun logger info c e opened => Facet.creation_focused.hides_abandon
      (hears_of_hooksOnly Facet.creation_hooksOnly rfl)
      .blocking logger info c e opened) s r info start.ticketed
  rw [ends, prepare_outcome]
  exact creationGoverned_of_hidden s (equips.trans prepares)

/-- An execution that ends with a value, as the hooks of both events govern it. -/
def ExecutionOnceGoverned (shape : Shape σ α) (s : Statement) (mode : Mode) (r : Request σ)
    (start : Session σ) (call : Outcome α × Session σ) : Prop :=
  s.PreparationGoverned shape.method mode r start call.2 ∧
    ExecutionGoverned shape s mode r start call.2 (concluded mode r) call.1

/-- An execution that ends with a reader. -/
def ReaderGoverned (s : Statement) (mode : Mode) (r : Request σ) (start : Session σ)
    (call : (Outcome (DataReader σ) × Command σ) × Session σ) : Prop :=
  s.PreparationGoverned .reader mode r start call.2 ∧
    ExecutionGoverned .reader s mode r start call.2
      (fun execution v => (delivered mode r execution v).map .ofBinding) call.1.1

theorem executeOnce_governed {shape : Shape σ α} (faithful : shape.Faithful) (plain : shape.Plain)
    (s : Statement) (mode : Mode) (r : Request σ) (start : Session σ) :
    ExecutionOnceGoverned shape s mode r start ((s.executeOnce shape mode r).observe start) := by
  have same : concluded mode r = fun (execution : Execution α) (v : Session σ) =>
      ((concluding mode r execution).observe v).1 :=
    funext fun execution => funext fun v => (concluding_apply mode r execution v).symm
  unfold ExecutionOnceGoverned
  rw [executeOnce_eq, same]
  have creates := preparationGoverned faithful s mode r start
    (hides_concluding Facet.creation_focused mode r)
  exact ⟨creates,
    executionGoverned plain s mode r start (hides_concluding Facet.execution_focused mode r)⟩

theorem executeReader_governed (command : Command σ) (mode : Mode) (r : Request σ)
    (start : Session σ) :
    command.statement.ReaderGoverned mode r start (command.executeReader mode r start) := by
  have same : delivered mode r = fun (execution : Execution Cursor) (v : Session σ) =>
      ((delivering mode r execution).observe v).1 :=
    funext fun execution => funext fun v => (delivering_apply mode r execution v).symm
  have prepared := preparationGoverned Shape.reader_faithful command.statement mode r start
    (hides_delivering Facet.creation_focused mode r)
  have executed := executionGoverned Shape.reader_plain command.statement mode r start
    (hides_delivering Facet.execution_focused mode r)
  unfold ReaderGoverned
  rw [executeReader_outcome, same]
  exact ⟨prepared.before (hides_executeReader Facet.creation_focused mode r command start),
    executed.map _ _ _ _ DataReader.ofBinding
      (hides_executeReader Facet.execution_focused mode r command start)⟩

/-- Hooks govern every call: how a command is created, how it is executed, and how a transaction is
begun. -/
theorem calls_governed (mode : Mode) (start : Session σ) :
    (∀ (s : Statement) (r : Request σ),
      ExecutionOnceGoverned .nonQuery s mode r start ((s.executeNonQuery mode r).observe start) ∧
      ExecutionOnceGoverned .scalar s mode r start ((s.executeScalar mode r).observe start)) ∧
    (∀ (command : Command σ) (r : Request σ),
      command.statement.ReaderGoverned mode r start (command.executeReader mode r start)) ∧
    (∀ (s : Statement) (method : Method) (r : Request σ),
      s.CreationGoverned r (r.info start.nextTicket method .blocking) start
        (s.createCommand method r start).2 (s.createCommand method r start).1.1) ∧
    ∀ (c : ConnectionId) (isolation : IsolationLevel),
      Transaction.BeginningGoverned mode c isolation start
        ((Transaction.start mode c isolation).observe start) :=
  ⟨fun s r => ⟨executeOnce_governed Shape.nonQuery_faithful Shape.nonQuery_plain s mode r start,
      executeOnce_governed Shape.scalar_faithful Shape.scalar_plain s mode r start⟩,
    fun command r => executeReader_governed command mode r start,
    fun s method r => s.createCommand_governed method r start,
    fun c isolation => Transaction.beginningGoverned mode c isolation start⟩

end Statement

end SqlExecution
