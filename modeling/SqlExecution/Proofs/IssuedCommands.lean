import SqlExecution.Proofs.AmbientTransactions
import SqlExecution.Proofs.Cancellation
import SqlExecution.Proofs.CommandOperations

/-! What the driver is asked to execute. Each execution configures a command that was created for
it, so what it issues depends on the statement that is kept by then, on the values of its request,
and on the timeout and the ambient transaction of the connection, and on nothing that was issued
before. -/

namespace SqlExecution

variable {σ α : Type}

open Session

/-- Nothing of the command is set but its text. -/
structure NativeCommand.Unset (c : NativeCommand) : Prop where
  parameters : c.parameters = []
  transaction : c.transaction = none
  timeout : c.timeout = none

namespace Parameter

def given? (values : Option Values) (p : Parameter) : Option Value :=
  values.bind (·.find? p.invariant)

/-- What a parameter adds to a command for its value. -/
def produced (values : Option Values) (p : Parameter) : List NativeParameter :=
  ((p.given? values).map fun v => (p.bindValue v).added).getD []

/-- The parameter has a value, and the value fits. -/
def Fits (values : Option Values) (p : Parameter) : Prop :=
  ∃ v, p.given? values = some v ∧ (p.bindValue v).result = .ok ()

theorem added_of_bindAll {values : Values} {ps : List Parameter}
    (binds : (bindAll values ps).result = .ok ()) :
    (bindAll values ps).added = ps.flatMap (produced (some values)) ∧
      ∀ p ∈ ps, p.Fits (some values) := by
  induction ps with
  | nil => exact ⟨rfl, by simp⟩
  | cons p rest ih =>
    unfold bindAll at binds ⊢
    cases found : values.find? p.invariant with
    | none =>
      have missing : p.bind values = ⟨[], .error (.missingParameter p.invariant)⟩ := by
        rw [bind, found]
      rw [missing] at binds
      cases binds
    | some v =>
      have bound : p.bind values = p.bindValue v := by rw [bind, found]
      have value : p.given? (some values) = some v := found
      rw [bound] at binds ⊢
      rcases ends : p.bindValue v with ⟨added, e | _⟩
      all_goals rw [ends] at binds
      · cases binds
      · obtain ⟨more, fit⟩ := ih binds
        have here : p.produced (some values) = added := by simp [produced, value, ends]
        refine ⟨?_, List.forall_mem_cons.2 ⟨⟨v, value, by rw [ends]⟩, fit⟩⟩
        rw [List.flatMap_cons, here]
        exact congrArg (added ++ ·) more

end Parameter

theorem Statement.added_of_bind {s : Statement} {values : Option Parameter.Values}
    (binds : (s.bind values).result = .ok ()) :
    (s.bind values).added = s.parameters.flatMap (Parameter.produced values) ∧
      ∀ p ∈ s.parameters, p.Fits values := by
  unfold Statement.bind at binds ⊢
  split at binds
  · next none => simp [none]
  · cases binds
  · exact Parameter.added_of_bindAll binds

namespace Session

theorem taken_of_connections {s t : Session σ} (same : t.connections = s.connections)
    (id : ConnectionId) (opened : Bool) : t.taken id opened = s.taken id opened := by
  unfold taken setConnection
  rw [same]

theorem ambient_taken (s : Session σ) (id : ConnectionId) (opened : Bool) (i : ConnectionId) :
    (s.taken id opened i).ambient = (s.connections i).ambient := by
  by_cases same : i = id
  · simp [taken, same, Connection.acquired]
  · simp [taken, setConnection_of_ne, same]

theorem timeout_taken (s : Session σ) (id : ConnectionId) (opened : Bool) (i : ConnectionId) :
    (s.taken id opened i).timeout = (s.connections i).timeout := by
  by_cases same : i = id
  · simp [taken, same, Connection.acquired]
  · simp [taken, setConnection_of_ne, same]

end Session

namespace Statement

/-- An execution that starts here asks the driver, in this session, to execute this command. -/
structure Issued [Driver σ] (s : Statement) (method : Method) (mode : Mode) (r : Request σ)
    (start asking : Session σ) (c : NativeCommand) : Prop where
  /-- It is the command that was created for the execution. -/
  created : ∃ blank, ((s.creation method mode r).observe start).1 = .ok (blank, .ok ()) ∧
    c.Same blank ∧ (blank.Unset →
      c.text = s.text ∧
      c.parameters = s.parameters.flatMap (Parameter.produced r.values) ∧
      c.timeout = (asking.connections r.connection).timeout ∧
      c.transaction = (asking.ambient r.connection).map (·.native))
  fit : ∀ p ∈ s.parameters, p.Fits r.values
  /-- Up to here the execution changed neither the timeout nor the ambient transaction. -/
  timeout : (asking.connections r.connection).timeout = (start.connections r.connection).timeout
  ambient : asking.ambient = start.ambient

variable {shape : Shape σ α} {s : Statement} {mode : Mode} {r : Request σ} {start t : Session σ}
  {c : NativeCommand}

section Opening

variable [Driver σ] {method : Method} {setting : Setting σ} {opened : Bool}

theorem opening_configures
    (opens : (s.opening method mode r).observe start = (.ok (setting, c, opened), t)) :
    ∃ blank opened', ((s.creation method mode r).observe start).1 = .ok (blank, .ok ()) ∧
      c = (blank.configure s.text (start.connections r.connection)).addParameters
        (s.bind r.values).added ∧
      (s.bind r.values).result = .ok () ∧ t.connections = start.taken r.connection opened' := by
  obtain ⟨setting', t', enters, rest⟩ := Attempt.ok_of_bind_ok opens
  obtain ⟨c', u, equips, rest⟩ := Attempt.ok_of_bind_ok rest
  obtain ⟨opened', v, takes, same⟩ := Attempt.ok_of_bind_ok rest
  cases same
  obtain ⟨⟨blank, hooked⟩, w, yields, rest⟩ := Attempt.ok_of_bind_ok equips
  rw [Attempt.observe_get_bind] at rest
  have entered := (enter_ok enters).2.2
  have connections : w.connections = start.connections := by
    obtain ⟨made, issues, -⟩ := only_yielded r setting.info t'
    rw [yields] at issues
    rw [issues.connections, entered]
  have creates : ((s.creation method mode r).observe start).1 = .ok (blank, hooked) := by
    rw [creation_of_entered enters, yields]
  rw [connections] at rest
  cases hooked with
  | error e => cases rest
  | ok _ =>
    rcases binds : (s.bind r.values).result with e | _
    all_goals
      dsimp only [equip] at rest
      rw [binds] at rest
      cases rest
    obtain ⟨taken, held⟩ := (openFor_held takes blank).connections
    exact ⟨blank, taken, creates, rfl, rfl, held.trans (taken_of_connections connections _ _)⟩

theorem issued_of_opening {asking : Session σ}
    (opens : (s.opening method mode r).observe start = (.ok (setting, c, opened), t))
    (same : asking.connections = t.connections) : s.Issued method mode r start asking c := by
  obtain ⟨blank, taken, creates, rfl, binds, connections⟩ := opening_configures opens
  obtain ⟨added, fit⟩ := added_of_bind binds
  have timeout : (asking.connections r.connection).timeout =
      (start.connections r.connection).timeout := by
    rw [same, connections, timeout_taken]
  have ambient : asking.ambient = start.ambient := by
    funext i
    rw [Session.ambient, same, connections, ambient_taken]
    rfl
  refine ⟨⟨blank, creates, ⟨rfl, rfl⟩, fun unset => ⟨rfl, ?_, ?_, ?_⟩⟩, fit, timeout, ambient⟩
  · rw [← added]
    exact (congrArg (· ++ _) unset.parameters).trans (List.nil_append _)
  · rw [timeout]
    change (start.connections r.connection).timeout.or blank.timeout = _
    rw [unset.timeout, Option.or_none]
  · rw [ambient]
    change ((start.connections r.connection).ambient.map (·.native)).or blank.transaction = _
    rw [unset.transaction, Option.or_none]
    rfl

end Opening

section Running

variable [Driver σ] (faithful : shape.Faithful) (logger : Option (Logger σ)) (info : ExecutionInfo)
include faithful

theorem hides_offering (mode : Mode) (c : NativeCommand) :
    Attempt.Obeys (Hides .executeCalls) (offering shape mode logger info c) :=
  obeys_offering faithful (fun _ => hears_of_hooksOnly Facet.executeCalls_hooksOnly rfl)
    (fun l _ => eachHook_hides l) mode info c

theorem hides_conclude (mode : Mode) (c : NativeCommand) (reached : Reached σ α) :
    Attempt.Obeys (Hides .executeCalls) (conclude shape mode c reached) :=
  obeys_conclude faithful (fun _ => hears_of_hooksOnly Facet.executeCalls_hooksOnly rfl)
    fun raised _ => eachHook_hides raised.1

theorem run_asks (mode : Mode) (c : NativeCommand) (t : Session σ) :
    ∃ ms, t.Shows .executeCalls ms ((run shape mode logger info c).observe t).2 ∧
      ∀ m ∈ ms, m = ⟨((offering shape mode logger info c).observe t).2.scene,
        .native (.execute shape.method c mode)⟩ := by
  have offered := hides_offering faithful logger info mode c t
  rw [run_apply]
  rcases offers : (offering shape mode logger info c).observe t with ⟨failure | offer, u⟩
  all_goals rw [offers] at offered
  · rw [Attempt.observe_bind_error offers]
    exact ⟨[], offered, by simp⟩
  · rw [Attempt.observe_bind_ok offers, supplying]
    cases offer.result with
    | hasResult a =>
      dsimp only
      rw [pure_bind]
      exact ⟨[], offered.trans (hides_conclude faithful mode c _ u), by simp⟩
    | noResult =>
      dsimp only
      rw [bind_assoc, Attempt.observe_bind_apply, checkpoint_apply]
      cases mode.checkpoint u.scene.cancelled with
      | error failure => exact ⟨[], offered, by simp⟩
      | ok _ =>
        dsimp only
        have asks : u.Shows .executeCalls [⟨u.scene, .native (.execute shape.method c mode)⟩]
            ((Attempt.call (.execute shape.method c mode) mode (shape.native c)).observe u).2 :=
          (shows_noted rfl u).before (.of_journal_eq rfl)
        refine ⟨_, (offered.trans asks).before ?_, fun m member => List.mem_singleton.1 member⟩
        rw [bind_assoc]
        exact Attempt.Obeys.after (fun _ => by
          rw [pure_bind]
          exact hides_conclude faithful mode c _) _ u

/-- All that an execution has the driver execute is the command that it created. -/
theorem execute_asks (s : Statement) (mode : Mode) (r : Request σ) (start : Session σ) :
    ∃ ms, start.Shows .executeCalls ms ((s.execute shape mode r).observe start).2 ∧
      ∀ m ∈ ms, ∃ c, m = ⟨((s.approaching shape mode r).observe start).2.scene,
          .native (.execute shape.method c mode)⟩ ∧
        s.Issued shape.method mode r start ((s.approaching shape mode r).observe start).2 c := by
  have abandons := fun logger info c e opened => Facet.executeCalls_focused.hides_abandon
    (σ := σ) (hears_of_hooksOnly Facet.executeCalls_hooksOnly rfl) mode logger info c e opened
  have after := execute_after abandons shape s r start
  have opened := hides_executeCalls_opening s shape.method mode r start
  unfold approaching
  rcases opens : (s.opening shape.method mode r).observe start with
    ⟨failure | ⟨setting, c, flag⟩, t⟩
  all_goals rw [opens] at opened
  · rw [performing_of_unopened opens] at after
    exact ⟨[], opened.trans after, by simp⟩
  · rw [performing_of_opened opens] at after
    rw [Attempt.observe_bind_ok opens]
    obtain ⟨ms, shows, asks⟩ := run_asks faithful setting.logger setting.info mode c t
    refine ⟨ms, .before (.after opened shows) after, fun m member => ⟨c, asks m member, ?_⟩⟩
    refine issued_of_opening opens ?_
    have only : Attempt.Only (fun _ => False)
        (offering shape mode setting.logger setting.info c) :=
      obeys_offering faithful (fun _ => hears_within _) (fun l _ => eachHook_within l) mode _ c
    exact (only t).silent.connections

theorem executeOnce_asks (s : Statement) (mode : Mode) (r : Request σ) (start : Session σ) :
    ∃ ms, start.Shows .executeCalls ms ((s.executeOnce shape mode r).observe start).2 ∧
      ∀ m ∈ ms, ∃ c, m = ⟨((s.approaching shape mode r).observe start).2.scene,
          .native (.execute shape.method c mode)⟩ ∧
        s.Issued shape.method mode r start ((s.approaching shape mode r).observe start).2 c := by
  obtain ⟨ms, shows, asks⟩ := execute_asks faithful s mode r start
  exact ⟨ms, shows.before (Attempt.Obeys.after
    (hides_concluding Facet.executeCalls_focused mode r) _ start), asks⟩

omit faithful in
theorem executeReader_asks (command : Command σ) (mode : Mode) (r : Request σ)
    (start : Session σ) :
    ∃ ms, start.Shows .executeCalls ms (command.executeReader mode r start).2 ∧
      ∀ m ∈ ms, ∃ c,
        m = ⟨((command.statement.approaching .reader mode r).observe start).2.scene,
          .native (.execute .reader c mode)⟩ ∧
        command.statement.Issued .reader mode r start
          ((command.statement.approaching .reader mode r).observe start).2 c := by
  obtain ⟨ms, shows, asks⟩ :=
    execute_asks Shape.reader_faithful command.statement mode r start
  have delivered : Hides .executeCalls
      ((command.statement.execute .reader mode r).observe start).2
      ((command.statement.openCursor mode r).observe start).2 :=
    Attempt.Obeys.after (hides_delivering Facet.executeCalls_focused mode r) _ start
  exact ⟨ms, (shows.before delivered).before
    (hides_executeReader Facet.executeCalls_focused mode r command start), asks⟩

end Running

/-- The session in which an execution has its executing hooks behind it, and asks the driver. -/
def asking [Driver σ] (s : Statement) (method : Method) (mode : Mode) (r : Request σ)
    (start : Session σ) : Session σ :=
  match method with
  | .nonQuery => ((s.approaching .nonQuery mode r).observe start).2
  | .scalar => ((s.approaching .scalar mode r).observe start).2
  | .reader => ((s.approaching .reader mode r).observe start).2

end Statement

/-- The statement that is kept under a name. -/
def Workspace.statement? (name : String) (w : Workspace σ) : Option Statement :=
  (Named.find? name w.commands).map (·.statement)

theorem Workspace.statement_insert {w : Workspace σ} {name : String} {c c' : Command σ}
    (found : Named.find? name w.commands = some c) (same : c'.statement = c.statement)
    (other : String) (s : Session σ) :
    statement? other { w with session := s, commands := Named.insert name c' w.commands } =
      w.statement? other := by
  unfold statement?
  by_cases here : other = name
  · rw [here, Named.find?_insert_same, found, Option.map_some, Option.map_some, same]
  · rw [Named.find?_insert_of_ne here]

theorem ReaderUse.hides_perform [Driver σ] {f : Facet} (focused : f.Focused) (use : ReaderUse σ)
    (r : DataReader σ) : Engine.Obeys (Hides f) (use.perform r) := by
  cases releasing : use.releasing? with
  | none =>
    have reads : ∀ call, Holding.Reads r.holding? call → Allows (Hides (σ := σ) f) call := by
      intro call h
      obtain ⟨c, _, reads⟩ := h
      exact allows_hides (focused.calls (NativeCall.isHooked_of_reads reads))
    exact fun s => (perform_lawful releasing reads s).1
  | some mode =>
    have hooks : ∀ l ∈ r.logger?, l.EachHook (Lets (Hides f)) := fun l _ => eachHook_hides l
    cases use with
    | dispose mode' =>
        exact (DataReader.obeys_dispose focused.dismisses mode' hooks).bind fun _ => .pure _
    | drop => exact (DataReader.obeys_drop focused.dismisses hooks).bind fun _ => .pure _
    | supersede mode' b =>
        exact (DataReader.obeys_rebind focused.dismisses mode' hooks b).bind fun _ => .pure _
    | _ => simp [releasing?] at releasing

namespace Operation

/-- The execution that the operation is: of which command, in which way, and what for. -/
def execution? : Operation σ → Option (String × Method × Mode × Request σ)
  | executeNonQuery name r mode => some (name, .nonQuery, mode, r)
  | executeScalar name r mode => some (name, .scalar, mode, r)
  | executeReader name r mode => some (name, .reader, mode, r)
  | _ => none

/-- The statement under a name after the operation, by that before. -/
def leaves (name : String) (kept : Option Statement) : Operation σ → Option Statement
  | declare other s => if name = other then some s else kept
  | populate other s => if name = other then kept.map fun _ => s else kept
  | dropCommand other => if name = other then none else kept
  | _ => kept

theorem statement_withCommand {name other : String} {w : Workspace σ}
    {act : Command σ → Program σ (Answer σ)} (left : Option Statement → Option Statement)
    (absent : left none = none)
    (present : ∀ c, Named.find? other w.commands = some c →
      (act c w).2.statement? name =
        if name = other then left (some c.statement) else w.statement? name) :
    (Program.withCommand other act w).2.statement? name =
      if name = other then left (w.statement? name) else w.statement? name := by
  cases found : Named.find? other w.commands with
  | none =>
    rw [withCommand_of_none found]
    dsimp only
    split
    · next same =>
      have missing : w.statement? name = none := by rw [Workspace.statement?, same, found]; rfl
      rw [missing, absent]
    · rfl
  | some c =>
    rw [withCommand_of_find found, present c found]
    split
    · next same => rw [Workspace.statement?, same, found]; rfl
    · rfl

theorem statement_withReader (name other : String) (w : Workspace σ)
    (act : DataReader σ → Engine σ (Answer σ × DataReader σ)) :
    (Program.withReader name act w).2.statement? other = w.statement? other := by
  unfold Program.withReader
  refine Program.withCommand_cases (P := fun x => x.2.statement? other = _) rfl fun c found => ?_
  cases reader : c.reader with
  | none => rfl
  | some r =>
    have same : ({ c with reader := some (act r w.session).1.2 } : Command σ).statement =
        c.statement := rfl
    exact Workspace.statement_insert found same other (act r w.session).2

variable [Driver σ]

theorem statement_keepBegun (name other : String) (o : Outcome (Transaction σ)) (w : Workspace σ) :
    (Program.keepBegun name o w).2.statement? other = w.statement? other := by
  cases o with
  | error failure => rfl
  | ok t =>
    rw [Program.keepBegun_ok]
    rfl

theorem statement_perform (op : Operation σ) (w : Workspace σ) (name : String) :
    (op.perform w).2.statement? name = op.leaves name (w.statement? name) := by
  have transactional (other : String) {act : Transaction σ → Program σ (Answer σ)}
      (acts : ∀ t, (act t w).2.commands = w.commands) :
      (Program.withTransaction other act w).2.statement? name = w.statement? name := by
    refine Program.withTransaction_cases (P := fun x => x.2.statement? name = _) rfl fun t _ => ?_
    unfold Workspace.statement?
    rw [acts]
  cases op with
  | limitTrace limit => rfl
  | setCancelled reason => rfl
  | openNative c mode => rfl
  | closeNative c mode => rfl
  | openConnection c mode => rfl
  | closeConnection c mode => rfl
  | begin other c isolation mode => exact statement_keepBegun _ _ _ _
  | adopt other c native mode => exact statement_keepBegun _ _ _ _
  | complete other completion mode => exact transactional _ fun _ => rfl
  | disposeTransaction other mode => exact transactional _ fun _ => rfl
  | dropTransaction other => exact transactional _ fun _ => rfl
  | declare other s =>
    rw [declare_apply]
    dsimp only [Workspace.statement?, leaves]
    split
    · next same => rw [same, Named.find?_insert_same, Option.map_some]
    · next distinct => rw [Named.find?_insert_of_ne distinct]
  | populate other s =>
    refine statement_withCommand (Option.map fun _ => s) rfl fun c _ => ?_
    change (Named.find? name (Named.insert other (c.populate s) w.commands)).map _ = _
    split
    · next same => rw [same, Named.find?_insert_same]; rfl
    · next distinct => rw [Named.find?_insert_of_ne distinct]; rfl
  | dropCommand other =>
    refine statement_withCommand (fun _ => none) rfl fun c _ => ?_
    change (Named.find? name (Named.erase other w.commands)).map _ = _
    split
    · next same => rw [same, Named.find?_erase_same]; rfl
    · next distinct => rw [Named.find?_erase_of_ne distinct]; rfl
  | executeNonQuery other r mode =>
    exact Program.withCommand_cases (P := fun x => x.2.statement? name = _) rfl fun _ _ => rfl
  | executeScalar other r mode =>
    exact Program.withCommand_cases (P := fun x => x.2.statement? name = _) rfl fun _ _ => rfl
  | executeReader other r mode =>
    refine Program.withCommand_cases (P := fun x => x.2.statement? name = _) rfl fun c found => ?_
    have same : (c.executeReader mode r w.session).1.2.statement = c.statement := by
      rw [Command.executeReader_apply]
      rcases (c.statement.openCursor mode r).observe w.session with ⟨_ | b, t⟩ <;> rfl
    exact Workspace.statement_insert found same name _
  | createCommand other method r =>
    exact Program.withCommand_cases (P := fun x => x.2.statement? name = _) rfl fun _ _ => rfl
  | read other mode => exact statement_withReader _ _ _ _
  | nextResult other mode => exact statement_withReader _ _ _ _
  | getValue other ordinal => exact statement_withReader _ _ _ _
  | isNull other ordinal => exact statement_withReader _ _ _ _
  | columnName other ordinal => exact statement_withReader _ _ _ _
  | drain other => exact statement_withReader _ _ _ _
  | disposeReader other mode => exact statement_withReader _ _ _ _

theorem lenient_executeCalls : Lenient (Hides (σ := σ) .executeCalls) where
  hears _ := hears_of_hooksOnly Facet.executeCalls_hooksOnly rfl
  upkeep {call} kind := allows_hides (by cases call <;> first | rfl | cases kind)
  wraps _ := hides_noted rfl
  ambient _ _ _ := .of_journal_eq rfl

theorem hides_start (mode : Mode) (c : ConnectionId) (isolation : IsolationLevel) :
    Attempt.Obeys (Hides (σ := σ) .executeCalls) (Transaction.start mode c isolation) := by
  intro s
  have beginning := Transaction.start_beginning mode c isolation s
  have taken := Facet.executeCalls_focused.hides_acquire mode c s
  have begins (t : Session σ) (id : TransactionId) : Hides .executeCalls t
      ((Transaction.beginNative mode c isolation id).observe (Transaction.serialized t)).2 := by
    have minted : Hides .executeCalls t (Transaction.serialized t) := .of_journal_eq rfl
    exact minted.trans (Transaction.beginNative_obeys
      (fun _ => hears_of_hooksOnly Facet.executeCalls_hooksOnly rfl) (allows_hides rfl) id
      fun l _ => eachHook_hides l)
  generalize (Transaction.start mode c isolation).observe s = ends at beginning ⊢
  obtain ⟨o, last⟩ := ends
  cases beginning with
  | unentered => exact Law.refl _
  | unopened stops => rwa [stops] at taken
  | @unbegun _ failure t u opens stops =>
    rw [opens] at taken
    have begun := begins t ⟨t.nextSerial⟩
    rw [stops] at begun
    exact (taken.trans begun).trans (Transaction.obeys_releaseAfterFailure
      (Facet.executeCalls_focused.hides_releaseOutcome mode c) u)
  | @begun _ native t u opens begun =>
    rw [opens] at taken
    have wraps := begins t ⟨t.nextSerial⟩
    rw [begun] at wraps
    exact (taken.trans wraps).trans (Transaction.obeys_wrap (fun _ => hides_noted rfl)
      (fun _ _ => .of_journal_eq rfl) native ⟨t.nextSerial⟩ true u)

theorem hides_keepBegun (name : String) (o : Outcome (Transaction σ)) (w : Workspace σ) :
    Hides .executeCalls w.session (Program.keepBegun name o w).2.session := by
  cases o with
  | error failure => exact Law.refl _
  | ok t =>
    rw [Program.keepBegun_ok]
    change Hides .executeCalls w.session ((Named.find? name w.transactions).elim w.session _)
    cases Named.find? name w.transactions with
    | none => exact Law.refl _
    | some old =>
      exact Transaction.obeys_drop lenient_executeCalls (fun _ => allows_hides rfl)
        (Facet.executeCalls_focused.hides_releaseOutcome _ _) w.session

theorem hides_withReader {name : String} {w : Workspace σ} (use : ReaderUse σ)
    {act : DataReader σ → Engine σ (Answer σ × DataReader σ)}
    (acts : ∀ r s, ((act r s).1.2, (act r s).2) = use.perform r s) :
    Hides .executeCalls w.session (Program.withReader name act w).2.session := by
  refine Program.withCommand_cases (P := fun x => Hides .executeCalls w.session x.2.session)
    (Law.refl _) fun c _ => ?_
  cases c.reader with
  | none => exact Law.refl _
  | some r =>
    have session : (act r w.session).2 = (use.perform r w.session).2 :=
      congrArg Prod.snd (acts r w.session)
    change Hides .executeCalls w.session (act r w.session).2
    rw [session]
    exact ReaderUse.hides_perform Facet.executeCalls_focused use r w.session

theorem hides_others {op : Operation σ} (other : op.execution? = none) (w : Workspace σ) :
    Hides .executeCalls w.session (op.perform w).2.session := by
  have focused := Facet.executeCalls_focused
  have drops (c : Command σ) : Engine.Obeys (Hides .executeCalls) c.drop :=
    Command.obeys_drop focused.dismisses fun l _ => eachHook_hides l
  have transactional (name : String) {act : Transaction σ → Program σ (Answer σ)}
      (acts : ∀ t, Hides .executeCalls w.session (act t w).2.session) :
      Hides .executeCalls w.session (Program.withTransaction name act w).2.session :=
    Program.withTransaction_cases (P := fun x => Hides .executeCalls w.session x.2.session)
      (Law.refl _) fun t _ => acts t
  cases op with
  | limitTrace limit => exact .of_journal_eq rfl
  | setCancelled reason => exact .of_journal_eq rfl
  | openNative c mode =>
    have allows : Allows (Hides (σ := σ) .executeCalls) (.openConnection c mode) :=
      allows_hides rfl
    exact Engine.obeys_call allows (fun _ => rfl) w.session
  | closeNative c mode =>
    have allows : Allows (Hides (σ := σ) .executeCalls) (.closeConnection c mode) :=
      allows_hides rfl
    exact Engine.obeys_call allows (fun _ => rfl) w.session
  | openConnection c mode => exact focused.hides_acquire mode c w.session
  | closeConnection c mode => exact focused.hides_releaseOutcome mode c w.session
  | begin name c isolation mode =>
    exact (hides_start mode c isolation w.session).trans (hides_keepBegun name _ _)
  | adopt name c native mode =>
    have adopts : Attempt.Obeys (Hides (σ := σ) .executeCalls) (Transaction.adopt mode c native) :=
      Transaction.obeys_adopt lenient_executeCalls (focused.hides_acquire mode c) native
    exact (adopts w.session).trans (hides_keepBegun name _ _)
  | complete name completion mode =>
    refine transactional _ fun t => Transaction.obeys_complete lenient_executeCalls
      (fun _ => allows_hides ?_) (focused.hides_releaseOutcome mode _) w.session
    cases completion <;> rfl
  | disposeTransaction name mode =>
    exact transactional _ fun t => Transaction.obeys_dispose lenient_executeCalls
      (fun _ => allows_hides rfl) (focused.hides_releaseOutcome mode _) w.session
  | dropTransaction name =>
    exact transactional _ fun t => Transaction.obeys_drop lenient_executeCalls
      (fun _ => allows_hides rfl) (focused.hides_releaseOutcome _ _) w.session
  | declare name statement =>
    rw [declare_apply]
    change Hides .executeCalls w.session ((Named.find? name w.commands).elim w.session _)
    cases Named.find? name w.commands with
    | none => exact Law.refl _
    | some old => exact drops old w.session
  | populate name statement =>
    exact Program.withCommand_cases (P := fun x => Hides .executeCalls w.session x.2.session)
      (Law.refl _) fun _ _ => Law.refl _
  | dropCommand name =>
    exact Program.withCommand_cases (P := fun x => Hides .executeCalls w.session x.2.session)
      (Law.refl _) fun c _ => drops c w.session
  | createCommand name method r =>
    refine Program.withCommand_cases (P := fun x => Hides .executeCalls w.session x.2.session)
      (Law.refl _) fun c _ => ?_
    exact c.statement.obeys_createCommand (Tolerates.prepares lenient_executeCalls.toTolerates)
      (fun l _ => eachHook_hides l) method w.session
  | read name mode => exact hides_withReader (.read mode) fun _ _ => rfl
  | nextResult name mode => exact hides_withReader (.nextResult mode) fun _ _ => rfl
  | getValue name ordinal => exact hides_withReader (.getValue ordinal) fun _ _ => rfl
  | isNull name ordinal => exact hides_withReader (.isNull ordinal) fun _ _ => rfl
  | columnName name ordinal => exact hides_withReader (.columnName ordinal) fun _ _ => rfl
  | drain name => exact hides_withReader .drain fun _ _ => rfl
  | disposeReader name mode => exact hides_withReader (.dispose mode) fun _ _ => rfl
  | executeNonQuery name r mode => cases other
  | executeScalar name r mode => cases other
  | executeReader name r mode => cases other

/-- The operation is an execution of this statement from this workspace, and this is how it asks the
driver for it. -/
def Asks (op : Operation σ) (kept : String → Option Statement) (start : Session σ)
    (m : Moment σ) : Prop :=
  ∃ name method mode r s c, op.execution? = some (name, method, mode, r) ∧ kept name = some s ∧
    m = ⟨(s.asking method mode r start).scene, .native (.execute method c mode)⟩ ∧
    s.Issued method mode r start (s.asking method mode r start) c

theorem withCommand_asks (op : Operation σ) {name : String} {method : Method} {mode : Mode}
    {r : Request σ} (executes : op.execution? = some (name, method, mode, r)) {w : Workspace σ}
    {act : Command σ → Program σ (Answer σ)}
    (asks : ∀ command : Command σ, ∃ ms,
      w.session.Shows .executeCalls ms (act command w).2.session ∧
      ∀ m ∈ ms, ∃ c,
        m = ⟨(command.statement.asking method mode r w.session).scene,
          .native (.execute method c mode)⟩ ∧
        command.statement.Issued method mode r w.session
          (command.statement.asking method mode r w.session) c) :
    ∃ ms, w.session.Shows .executeCalls ms (Program.withCommand name act w).2.session ∧
      ∀ m ∈ ms, op.Asks w.statement? w.session m := by
  refine Program.withCommand_cases (P := fun x => ∃ ms,
    w.session.Shows .executeCalls ms x.2.session ∧ ∀ m ∈ ms, op.Asks w.statement? w.session m)
    ⟨[], .of_journal_eq rfl, by simp⟩ fun command found => ?_
  obtain ⟨ms, shows, each⟩ := asks command
  refine ⟨ms, shows, fun m member => ?_⟩
  obtain ⟨c, same, issued⟩ := each m member
  have kept : w.statement? name = some command.statement := by
    rw [Workspace.statement?, found, Option.map_some]
  exact ⟨name, method, mode, r, _, c, executes, kept, same, issued⟩

theorem perform_asks (op : Operation σ) (w : Workspace σ) :
    ∃ ms, w.session.Shows .executeCalls ms (op.perform w).2.session ∧
      ∀ m ∈ ms, op.Asks w.statement? w.session m := by
  cases is : op.execution? with
  | none => exact ⟨[], hides_others is w, by simp⟩
  | some execution =>
    cases op with
    | executeNonQuery name r mode =>
      exact withCommand_asks (.executeNonQuery name r mode) rfl fun command =>
        Statement.executeOnce_asks Shape.nonQuery_faithful command.statement mode r w.session
    | executeScalar name r mode =>
      exact withCommand_asks (.executeScalar name r mode) rfl fun command =>
        Statement.executeOnce_asks Shape.scalar_faithful command.statement mode r w.session
    | executeReader name r mode =>
      exact withCommand_asks (.executeReader name r mode) rfl fun command =>
        Statement.executeReader_asks command mode r w.session
    | _ => cases is

end Operation

namespace Program

variable [Driver σ]

/-- Over any course of operations, whatever the driver is asked to execute is what the execution
that asks for it declares: the statement last given to the command, with the values of the request,
under the timeout and in the transaction that the connection has by then. -/
theorem asks_as_declared (ops : List (Operation σ)) (w : Workspace σ) :
    ∃ ms, w.session.Shows .executeCalls ms (run ops w).2.session ∧
      ∀ m ∈ ms, ∃ before op after, ops = before ++ op :: after ∧
        op.Asks (fun name => before.foldl (fun kept op => op.leaves name kept) (w.statement? name))
          (run before w).2.session m := by
  induction ops generalizing w with
  | nil => exact ⟨[], .of_journal_eq rfl, by simp⟩
  | cons op ops ih =>
    obtain ⟨ms, shows, first⟩ := op.perform_asks w
    obtain ⟨ns, later, rest⟩ := ih (op.perform w).2
    rw [run_cons]
    refine ⟨ms ++ ns, shows.trans later, List.forall_mem_append.2 ⟨?_, fun m member => ?_⟩⟩
    · intro m member
      exact ⟨[], op, ops, rfl, first m member⟩
    · obtain ⟨before, op', after, split, asks⟩ := rest m member
      refine ⟨op :: before, op', after, by rw [split, List.cons_append], ?_⟩
      rw [run_cons]
      simpa only [List.foldl_cons, op.statement_perform] using asks

end Program

end SqlExecution
