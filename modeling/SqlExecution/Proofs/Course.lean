import SqlExecution.Proofs.Releases

/-! How far an execution gets. Its steps up to the native call are computations of their own here,
with nothing released on the way, and every execution is one of these that went through or stopped,
followed by the release that is owed at that point. -/

namespace SqlExecution

variable {σ α : Type}

/-- What an execution settles before a command is created for it. -/
structure Setting (σ : Type) where
  info : ExecutionInfo
  logger : Option (Logger σ)

/-- A result, whether the driver gave it, and the event that is raised about it. -/
structure Reached (σ α : Type) where
  output : α
  native : Bool
  raised : Option (Logger σ × CommandEvent)

/-- The logger that a failure before the command is opened is reported to. -/
def Request.reporting (r : Request σ) (s : Session σ) : Option (Logger σ) :=
  r.logger.filter fun l => l.raisesCreate s.traceLimit || l.raisesExecute s.traceLimit

namespace Statement

/-- The command as it is to be executed, unless a created hook or the binding failed. -/
def equip (s : Statement) (values : Option Parameter.Values) (connection : Connection σ)
    (c : NativeCommand) (hooked : Result Unit) : NativeCommand × Result Unit :=
  match hooked with
  | .error e => (c, .error e)
  | .ok () =>
    ((c.configure s.text connection).addParameters (s.bind values).added, (s.bind values).result)

theorem same_equip (s : Statement) (values : Option Parameter.Values) (connection : Connection σ)
    (c : NativeCommand) (hooked : Result Unit) : (s.equip values connection c hooked).1.Same c := by
  cases hooked <;> exact ⟨rfl, rfl⟩

def enter (s : Statement) (method : Method) (mode : Mode)
    (r : Request σ) : Attempt σ (Setting σ) := do
  Attempt.ofResult (s.validate r.values)
  Attempt.checkpoint mode
  let info := r.info (← Attempt.lift Engine.newTicket) method mode
  return ⟨info, ← Attempt.lift (Engine.raising Logger.raisesExecute r.logger)⟩

theorem enter_apply (s : Statement) (method : Method) (mode : Mode) (r : Request σ)
    (start : Session σ) :
    (s.enter method mode r).observe start =
      match s.validate r.values with
      | .error e => (.error (.error e), start)
      | .ok () =>
        match mode.checkpoint start.scene.cancelled with
        | .error failure => (.error failure, start)
        | .ok () =>
          (.ok ⟨r.info start.nextTicket method mode,
              r.logger.filter (·.raisesExecute start.traceLimit)⟩,
            { start with nextTicket := start.nextTicket + 1 }) := by
  unfold enter
  rw [Attempt.observe_bind_apply, Attempt.ofResult, Attempt.observe_ofOutcome]
  cases s.validate r.values with
  | error e => rfl
  | ok _ =>
    dsimp only [Outcome.ofResult, Engine.pure_apply]
    rw [Attempt.observe_bind_apply, Attempt.checkpoint, Attempt.observe_get_bind]
    cases mode.checkpoint start.scene.cancelled <;> rfl

theorem enter_ok {s : Statement} {method : Method} {mode : Mode} {r : Request σ}
    {start t : Session σ} {setting : Setting σ}
    (enters : (s.enter method mode r).observe start = (.ok setting, t)) :
    setting.info = r.info start.nextTicket method mode ∧
      setting.logger = r.logger.filter (·.raisesExecute start.traceLimit) ∧
      t = { start with nextTicket := start.nextTicket + 1 } := by
  rw [enter_apply] at enters
  split at enters
  · cases enters
  · split at enters
    · cases enters
    · cases enters
      exact ⟨rfl, rfl, rfl⟩

theorem enter_connection {s : Statement} {method : Method} {mode : Mode} {r : Request σ}
    {start t : Session σ} {setting : Setting σ}
    (enters : (s.enter method mode r).observe start = (.ok setting, t)) :
    setting.info.connection = r.connection := by
  rw [(enter_ok enters).1]
  rfl

/-- The result of a command, from the driver or from an executing hook. -/
def reach (shape : Shape σ α) (mode : Mode) (logger : Option (Logger σ)) (info : ExecutionInfo)
    (c : NativeCommand) : Attempt σ (Reached σ α) := do
  let native : Attempt σ α := Attempt.call (.execute shape.method c mode) mode (shape.native c)
  Attempt.checkpoint mode
  match logger with
  | none => return ⟨← native, true, none⟩
  | some logger =>
    let event ← Attempt.lift info.event
    match ← logger.executing mode shape.around shape.payload c event with
    | .hasResult a => return ⟨a, false, some (logger, event)⟩
    | .noResult => do
      Attempt.checkpoint mode
      return ⟨← native, true, some (logger, event)⟩

def conclude (shape : Shape σ α) (mode : Mode) (c : NativeCommand) (reached : Reached σ α) :
    Attempt σ α :=
  match reached.raised with
  | none => pure reached.output
  | some (logger, event) =>
    logger.executed mode shape.around shape.payload c event reached.output

theorem run_eq (shape : Shape σ α) (mode : Mode) (logger : Option (Logger σ)) (info : ExecutionInfo)
    (c : NativeCommand) :
    run shape mode logger info c = reach shape mode logger info c >>= conclude shape mode c := by
  unfold run reach
  cases logger with
  | none => simp [conclude]
  | some logger =>
    simp only [bind_assoc]
    congr 1; funext _; congr 1; funext event; congr 1; funext offered
    cases offered <;> simp [conclude]

variable [Driver σ]

/-- Make a command ready that was obtained. If the binding fails, the command is abandoned. -/
def fit (s : Statement) (mode : Mode) (r : Request σ) (reporting : Option (Logger σ))
    (info : ExecutionInfo) (c : NativeCommand) : Attempt σ NativeCommand := do
  let binding := s.bind r.values
  let c := (c.configure s.text ((← get).connections r.connection)).addParameters binding.added
  if let .error e := binding.result then giveUp mode reporting info c (.error e) false
  return c

/-- Execute a command that is ready and has its open. If that fails, the command is abandoned. -/
def carryOut (shape : Shape σ α) (mode : Mode) (logger : Option (Logger σ)) (info : ExecutionInfo)
    (c : NativeCommand) : Attempt σ (Execution α) := do
  match ← (run shape mode logger info c).outcome with
  | .ok output => return ⟨output, c, info⟩
  | .error failure => giveUp mode logger info c failure true

/-- The command that the creating step yields, if it yields one. -/
def yielded (r : Request σ) (info : ExecutionInfo) : Attempt σ (NativeCommand × Result Unit) := do
  obtain info (r.logger.filter (·.raisesCreate (← get).traceLimit))

def creation (s : Statement) (method : Method) (mode : Mode) (r : Request σ) :
    Attempt σ (NativeCommand × Result Unit) := do
  yielded r (← s.enter method mode r).info

def equipped (s : Statement) (r : Request σ) (info : ExecutionInfo) : Attempt σ NativeCommand := do
  let (c, hooked) ← yielded r info
  let (c, result) := s.equip r.values ((← get).connections r.connection) c hooked
  Attempt.ofResult result
  return c

def opening (s : Statement) (method : Method) (mode : Mode) (r : Request σ) :
    Attempt σ (Setting σ × NativeCommand × Bool) := do
  let setting ← s.enter method mode r
  let c ← s.equipped r setting.info
  return (setting, c, ← openFor mode r.connection)

theorem opening_ok {s : Statement} {method : Method} {mode : Mode} {r : Request σ}
    {start u : Session σ} {setting : Setting σ} {c : NativeCommand} {opened : Bool}
    (opens : (s.opening method mode r).observe start = (.ok (setting, c, opened), u)) :
    setting.info = r.info start.nextTicket method mode ∧
      setting.logger = r.logger.filter (·.raisesExecute start.traceLimit) := by
  obtain ⟨setting', t, enters, rest⟩ := Attempt.ok_of_bind_ok opens
  obtain ⟨c', t', _, rest⟩ := Attempt.ok_of_bind_ok rest
  obtain ⟨opened', t'', _, same⟩ := Attempt.ok_of_bind_ok rest
  cases same
  obtain ⟨info, logger, _⟩ := enter_ok enters
  exact ⟨info, logger⟩

/-- What an execution has when the result is there and the executed event is still to be raised. -/
def fetching (shape : Shape σ α) (s : Statement) (mode : Mode) (r : Request σ) :
    Attempt σ (Setting σ × NativeCommand × Reached σ α) := do
  let (setting, c, _) ← s.opening shape.method mode r
  return (setting, c, ← reach shape mode setting.logger setting.info c)

/-- How preparing a command ends, and in which session. -/
inductive Preparation (s : Statement) (mode : Mode) (r : Request σ) (info : ExecutionInfo)
    (start : Session σ) : Outcome NativeCommand → Session σ → Prop where
  | uncreated {failure : Failure} {t : Session σ}
      (stops : (yielded r info).observe start = (.error failure, t)) :
      Preparation s mode r info start (.error failure) t
  | unequipped {c c' : NativeCommand} {hooked : Result Unit} {e : Error} {t : Session σ}
      (yields : (yielded r info).observe start = (.ok (c, hooked), t))
      (fails : s.equip r.values (t.connections r.connection) c hooked = (c', .error e)) :
      Preparation s mode r info start (.error (.error e))
        (abandon mode (r.reporting start) info c' e false t).2
  | equipped {c c' : NativeCommand} {hooked : Result Unit} {t : Session σ}
      (yields : (yielded r info).observe start = (.ok (c, hooked), t))
      (equips : s.equip r.values (t.connections r.connection) c hooked = (c', .ok ())) :
      Preparation s mode r info start (.ok c') t

theorem giveUp_apply (mode : Mode) (logger : Option (Logger σ)) (info : ExecutionInfo)
    (c : NativeCommand) (failure : Failure) (opened : Bool) (s : Session σ) :
    (giveUp mode logger info c failure opened : Attempt σ α).observe s =
      (.error failure, (abandon mode logger info c failure.toError opened s).2) := rfl

theorem prepare_course (s : Statement) (mode : Mode) (r : Request σ) (info : ExecutionInfo)
    (start : Session σ) :
    Preparation s mode r info start ((s.prepare mode r info).observe start).1
      ((s.prepare mode r info).observe start).2 := by
  have asked : (yielded r info).observe start =
      (obtain info (r.logger.filter (·.raisesCreate start.traceLimit))).observe start :=
    Attempt.observe_get_bind _ _
  unfold prepare
  rw [Attempt.observe_get_bind, Attempt.observe_bind_apply, ← asked]
  rcases yields : (yielded r info).observe start with ⟨failure | ⟨c, hooked⟩, t⟩
  · exact .uncreated yields
  · cases hooked with
    | error e => exact .unequipped yields rfl
    | ok _ =>
      cases bound : (s.bind r.values).result with
      | error e =>
        simp only [bound]
        rw [Attempt.observe_get_bind, Attempt.observe_bind_error (giveUp_apply _ _ _ _ _ _ t)]
        exact .unequipped yields (by rw [equip, bound])
      | ok _ =>
        simp only [bound]
        rw [Attempt.observe_get_bind]
        exact .equipped yields (by rw [equip, bound]; rfl)

theorem Preparation.equipped_apply {s : Statement} {mode : Mode} {r : Request σ}
    {info : ExecutionInfo} {start t : Session σ} {c : NativeCommand}
    (h : Preparation s mode r info start (.ok c) t) :
    (s.equipped r info).observe start = (.ok c, t) := by
  cases h with
  | equipped yields equips =>
    unfold Statement.equipped
    rw [Attempt.observe_bind_ok yields, Attempt.observe_get_bind, equips]
    rfl

theorem Preparation.unequipped_apply {s : Statement} {mode : Mode} {r : Request σ}
    {info : ExecutionInfo} {start t : Session σ} {failure : Failure}
    (h : Preparation s mode r info start (.error failure) t) :
    ∃ u, (s.equipped r info).observe start = (.error failure, u) := by
  unfold Statement.equipped
  cases h with
  | uncreated stops => exact ⟨t, Attempt.observe_bind_error stops _⟩
  | @unequipped c c' hooked e u yields fails =>
    refine ⟨u, ?_⟩
    rw [Attempt.observe_bind_ok yields, Attempt.observe_get_bind, fails]
    rfl

theorem prepare_of_equipped {s : Statement} {r : Request σ} {info : ExecutionInfo}
    {start t : Session σ} {c : NativeCommand}
    (equips : (s.equipped r info).observe start = (.ok c, t)) (mode : Mode) :
    (s.prepare mode r info).observe start = (.ok c, t) := by
  have preparation := s.prepare_course mode r info start
  rcases prepares : (s.prepare mode r info).observe start with ⟨failure | d, u⟩
  all_goals rw [prepares] at preparation
  · obtain ⟨v, fails⟩ := preparation.unequipped_apply
    rw [fails] at equips
    cases equips
  · have same := preparation.equipped_apply
    rw [equips] at same
    cases same
    rfl

/-- How an execution goes, to its end and the session that it ends in. -/
inductive Course (shape : Shape σ α) (s : Statement) (mode : Mode) (r : Request σ)
    (start : Session σ) : Outcome (Execution α) → Session σ → Prop where
  | unentered {failure : Failure} {t : Session σ}
      (stops : (s.enter shape.method mode r).observe start = (.error failure, t)) :
      Course shape s mode r start (.error failure) t
  | unprepared {setting : Setting σ} {failure : Failure} {t u : Session σ}
      (enters : (s.enter shape.method mode r).observe start = (.ok setting, t))
      (stops : Preparation s mode r setting.info t (.error failure) u) :
      Course shape s mode r start (.error failure) u
  | unopened {setting : Setting σ} {c : NativeCommand} {failure : Failure} {t u v : Session σ}
      (enters : (s.enter shape.method mode r).observe start = (.ok setting, t))
      (prepares : Preparation s mode r setting.info t (.ok c) u)
      (stops : (openFor mode r.connection).observe u = (.error failure, v)) :
      Course shape s mode r start (.error failure)
        (abandon mode setting.logger setting.info c failure.toError false v).2
  | unperformed {setting : Setting σ} {c : NativeCommand} {opened : Bool} {failure : Failure}
      {t u v w : Session σ}
      (enters : (s.enter shape.method mode r).observe start = (.ok setting, t))
      (prepares : Preparation s mode r setting.info t (.ok c) u)
      (opens : (openFor mode r.connection).observe u = (.ok opened, v))
      (stops : (run shape mode setting.logger setting.info c).observe v = (.error failure, w)) :
      Course shape s mode r start (.error failure)
        (abandon mode setting.logger setting.info c failure.toError true w).2
  | performed {setting : Setting σ} {c : NativeCommand} {opened : Bool} {output : α}
      {t u v w : Session σ}
      (enters : (s.enter shape.method mode r).observe start = (.ok setting, t))
      (prepares : Preparation s mode r setting.info t (.ok c) u)
      (opens : (openFor mode r.connection).observe u = (.ok opened, v))
      (performs : (run shape mode setting.logger setting.info c).observe v = (.ok output, w)) :
      Course shape s mode r start (.ok ⟨output, c, setting.info⟩) w

theorem execute_eq (shape : Shape σ α) (s : Statement) (mode : Mode) (r : Request σ) :
    s.execute shape mode r = (do
      let setting ← s.enter shape.method mode r
      let c ← s.prepare mode r setting.info
      if let .error failure ← (openFor mode r.connection).outcome then
        giveUp mode setting.logger setting.info c failure false
      match ← (run shape mode setting.logger setting.info c).outcome with
      | .ok output => return ⟨output, c, setting.info⟩
      | .error failure => giveUp mode setting.logger setting.info c failure true) := by
  unfold enter
  simp only [bind_assoc, pure_bind]
  rfl

theorem execute_course (shape : Shape σ α) (s : Statement) (mode : Mode) (r : Request σ)
    (start : Session σ) :
    Course shape s mode r start ((s.execute shape mode r).observe start).1
      ((s.execute shape mode r).observe start).2 := by
  rw [execute_eq]
  rcases enters : (s.enter shape.method mode r).observe start with ⟨failure | setting, t⟩
  · rw [Attempt.observe_bind_error enters]
    exact .unentered enters
  · rw [Attempt.observe_bind_ok enters]
    have preparation := s.prepare_course mode r setting.info t
    rcases prepares : (s.prepare mode r setting.info).observe t with ⟨failure | c, u⟩
    · rw [Attempt.observe_bind_error prepares]
      rw [prepares] at preparation
      exact .unprepared enters preparation
    · rw [Attempt.observe_bind_ok prepares, Attempt.observe_outcome_bind]
      rw [prepares] at preparation
      rcases opens : (openFor mode r.connection).observe u with ⟨failure | opened, v⟩
      · exact .unopened enters preparation opens
      · rcases performs : (run shape mode setting.logger setting.info c).observe v with
          ⟨failure | output, w⟩
        · rw [Attempt.observe_outcome_bind, performs, giveUp_apply]
          exact .unperformed enters preparation opens performs
        · rw [Attempt.observe_outcome_bind, performs]
          exact .performed enters preparation opens performs

theorem execute_of_fetched {shape : Shape σ α} {s : Statement} {mode : Mode} {r : Request σ}
    {start u : Session σ} {setting : Setting σ} {c : NativeCommand} {reached : Reached σ α}
    (fetched : (s.fetching shape mode r).observe start = (.ok (setting, c, reached), u)) :
    (s.execute shape mode r).observe start =
      match (conclude shape mode c reached).observe u with
      | (.ok output, v) => (.ok ⟨output, c, setting.info⟩, v)
      | (.error failure, v) =>
        (.error failure,
          (abandon mode setting.logger setting.info c failure.toError true v).2) := by
  -- Every step up to the result went well, and the execution takes the same steps.
  obtain ⟨⟨setting', c', opened⟩, t, opens, reaches⟩ := Attempt.ok_of_bind_ok fetched
  obtain ⟨reached', u', reaches, same⟩ := Attempt.ok_of_bind_ok reaches
  cases same
  obtain ⟨setting', t₁, enters, rest⟩ := Attempt.ok_of_bind_ok opens
  obtain ⟨c', t₂, equips, rest⟩ := Attempt.ok_of_bind_ok rest
  obtain ⟨opened', t₃, opens, same⟩ := Attempt.ok_of_bind_ok rest
  cases same
  have prepares := prepare_of_equipped equips mode
  rw [execute_eq, Attempt.observe_bind_ok enters, Attempt.observe_bind_ok prepares,
    Attempt.observe_outcome_bind, opens]
  dsimp only
  rw [Attempt.observe_outcome_bind, run_eq, Attempt.observe_bind_ok reaches]
  rcases (conclude shape mode c reached).observe u with ⟨failure | output, v⟩ <;> rfl

inductive Delivery (s : Statement) (mode : Mode) (r : Request σ) (start : Session σ) :
    Outcome (ReaderBinding σ) → Session σ → Prop where
  | unexecuted {failure : Failure} {t : Session σ}
      (stops : (s.execute .reader mode r).observe start = (.error failure, t)) :
      Delivery s mode r start (.error failure) t
  | direct {cursor : Cursor} {c : NativeCommand} {info : ExecutionInfo} {t : Session σ}
      (executes : (s.execute .reader mode r).observe start = (.ok ⟨cursor, c, info⟩, t))
      (undeclared : r.columns = none) :
      Delivery s mode r start (.ok ⟨c, .native cursor, r.logger, info⟩) t
  | unloaded {cursor : Cursor} {c : NativeCommand} {info : ExecutionInfo}
      {columns : List ReaderColumn} {failure : Failure} {t u : Session σ}
      (executes : (s.execute .reader mode r).observe start = (.ok ⟨cursor, c, info⟩, t))
      (declared : r.columns = some columns)
      (stops : (cursor.load mode columns r.detailedErrors).observe t = (.error failure, u)) :
      Delivery s mode r start (.error failure)
        (Engine.warn Trace.commandTarget "Failed to clean up command after a reader error"
          [Trace.connectionField r.connection] (c.cleanUp mode r.connection u).1
          (c.cleanUp mode r.connection u).2).2
  | loaded {cursor : Cursor} {c : NativeCommand} {info : ExecutionInfo}
      {columns : List ReaderColumn} {buffer : BufferedReader} {t u : Session σ}
      (executes : (s.execute .reader mode r).observe start = (.ok ⟨cursor, c, info⟩, t))
      (declared : r.columns = some columns)
      (loads : (cursor.load mode columns r.detailedErrors).observe t = (.ok buffer, u)) :
      Delivery s mode r start (.ok ⟨c, .buffered buffer, r.logger, info⟩) u

theorem openCursor_delivery (s : Statement) (mode : Mode) (r : Request σ) (start : Session σ) :
    Delivery s mode r start ((s.openCursor mode r).observe start).1
      ((s.openCursor mode r).observe start).2 := by
  unfold openCursor
  rcases executes : (s.execute .reader mode r).observe start with ⟨failure | ⟨cursor, c, info⟩, t⟩
  · rw [Attempt.observe_bind_error executes]
    exact .unexecuted executes
  · rw [Attempt.observe_bind_ok executes]
    cases columns : r.columns with
    | none => exact .direct executes columns
    | some columns' =>
      dsimp only
      rw [Attempt.observe_outcome_bind]
      rcases loads : (cursor.load mode columns' r.detailedErrors).observe t with
        ⟨failure | buffer, u⟩
      · exact .unloaded executes columns loads
      · exact .loaded executes columns loads

end Statement

theorem Command.executeReader_apply [Driver σ] (mode : Mode) (r : Request σ) (c : Command σ)
    (start : Session σ) :
    c.executeReader mode r start =
      match (c.statement.openCursor mode r).observe start with
      | (.error failure, t) => ((.error failure, c), t)
      | (.ok b, t) => ((.ok (.ofBinding b), { c with reader := some (.ofBinding b) }),
          ((c.reader.getD {}).rebind mode b t).2) := by
  unfold executeReader
  rw [Engine.bind_apply]
  rcases (c.statement.openCursor mode r).observe start with ⟨failure | b, t⟩ <;> rfl

end SqlExecution
