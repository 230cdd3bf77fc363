import SqlExecution.Proofs.Accounting
import SqlExecution.Proofs.HeldOpen
import SqlExecution.Proofs.ScriptedOpens

/-! Every call that needs a connection open finds it open, over whole programs: a connection that
somebody holds is open, and whoever works on a connection holds it. -/

namespace SqlExecution

variable {σ α β : Type} {id : ConnectionId}

open Session

/-- Whatever it starts from, the value has a property. -/
def Engine.Yields (P : α → Prop) (m : Engine σ α) : Prop := ∀ s, P (m s).1

theorem Engine.Yields.after {P : β → Prop} (m : Engine σ α) {f : α → Engine σ β}
    (rest : ∀ a, Yields P (f a)) : Yields P (m >>= f) := fun s => rest _ (m s).2

namespace Transaction

/-- A wrapper that is active has its open. -/
def Intact (t : Transaction σ) : Prop := t.state = .active → t.released = false

theorem wrap_intact (c : ConnectionId) (native : NativeTransaction) (serial : TransactionId)
    (owned : Bool) : Engine.Yields Intact (wrap c native serial owned : Engine σ _) := by
  intro s
  unfold wrap
  simp only [Engine.bind_apply]
  split <;> exact fun _ => rfl

variable [Driver σ] {t : Transaction σ}

theorem start_intact {mode : Mode} {c : ConnectionId} {isolation : IsolationLevel} {s u : Session σ}
    (starts : (start mode c isolation).observe s = (.ok t, u)) : t.Intact := by
  have beginning := start_beginning mode c isolation s
  rw [starts] at beginning
  cases beginning with
  | begun opens begins => exact wrap_intact c _ _ true _

theorem adopt_intact {mode : Mode} {c : ConnectionId} {native : NativeTransaction}
    {s u : Session σ} (adopts : (adopt mode c native).observe s = (.ok t, u)) : t.Intact := by
  obtain ⟨_, _, _, rest⟩ := Attempt.ok_of_bind_ok adopts
  obtain ⟨_, _, _, rest⟩ := Attempt.ok_of_bind_ok rest
  obtain ⟨serial, _, _, rest⟩ := Attempt.ok_of_bind_ok rest
  obtain ⟨_, w, _, rest⟩ := Attempt.ok_of_bind_ok rest
  cases rest
  exact wrap_intact c native ⟨serial⟩ false w

theorem clear_state (mode : Mode) (t : Transaction σ) :
    Engine.Yields (fun x => x.2.state = t.state) (t.clear mode) := by
  refine Engine.Yields.after _ fun _ => ?_
  split
  · exact fun _ => rfl
  · exact Engine.Yields.after _ fun _ _ => rfl

theorem complete_intact (mode : Mode) (completion : Completion) (intact : t.Intact) :
    Engine.Yields (fun x => x.2.Intact) (t.complete mode completion) := by
  -- There are two ways out: the wrapper as it was, or cleared in its final state.
  have unchanged : ∀ o : Outcome Unit, Engine.Yields (fun x => x.2.Intact)
      (pure (o, t) : Engine σ (Outcome Unit × Transaction σ)) := fun _ _ => intact
  have cleared : Engine.Yields (fun x => x.2.Intact)
      (clear mode { t with state := completion.state }) := by
    intro s active
    rw [clear_state mode { t with state := completion.state } s] at active
    cases completion <;> cases active
  unfold complete
  split
  · exact unchanged _
  · refine Engine.Yields.after _ fun s => ?_
    split
    · exact unchanged _
    · refine Engine.Yields.after _ fun o => ?_
      rcases o with failure | _
      · cases failure with
        | error e => exact Engine.Yields.after _ fun _ => unchanged _
        | cancelled reason => exact unchanged _
        | panicked message => exact unchanged _
      · exact Engine.Yields.after _ fun _ => cleared

theorem dispose_intact (mode : Mode) (t : Transaction σ) :
    Engine.Yields (fun x => x.2.Intact) (t.dispose mode) := by
  unfold dispose
  split
  · next disposed =>
    intro s (active : t.state = .active)
    rw [disposed] at active
    cases active
  · refine Engine.Yields.after _ fun rolledBack => ?_
    intro s active
    rw [Engine.bind_apply] at active
    change (clear mode { t with state := .disposed } s).1.2.state = .active at active
    rw [clear_state mode { t with state := .disposed } s] at active
    cases active

end Transaction

namespace Workspace

/-- An active transaction on the connection is kept under the name. -/
def ActiveOn (id : ConnectionId) (name : String) (w : Workspace σ) : Prop :=
  ∃ t, Named.find? name w.transactions = some t ∧ t.state = .active ∧ t.connection = id

/-- The command that is kept under the name has a reader that is open on the connection. -/
def ReadsOn (id : ConnectionId) (name : String) (w : Workspace σ) : Prop :=
  ∃ c, Named.find? name w.commands = some c ∧ c.holds id = true

theorem activeOn_iff {id : ConnectionId} {name : String} {w : Workspace σ} :
    w.ActiveOn id name ↔ (Named.find? name w.transactions).any
      (fun t => t.state = .active ∧ t.connection = id) = true := by
  unfold ActiveOn
  cases Named.find? name w.transactions <;> simp

end Workspace

namespace Operation

/-- An operation works on the connection of its request, and on that of the transaction or reader
that it uses, replaces or lets go. -/
def Concerns (id : ConnectionId) (w : Workspace σ) : Operation σ → Prop
  | begin name c _ _ => id = c ∨ w.ActiveOn id name
  | adopt name c _ _ => id = c ∨ w.ActiveOn id name
  | complete name _ _ => w.ActiveOn id name
  | disposeTransaction name _ => w.ActiveOn id name
  | dropTransaction name => w.ActiveOn id name
  | declare name _ => w.ReadsOn id name
  | dropCommand name => w.ReadsOn id name
  | executeNonQuery _ r _ => id = r.connection
  | executeScalar _ r _ => id = r.connection
  | executeReader name r _ => id = r.connection ∨ w.ReadsOn id name
  | createCommand _ _ r => id = r.connection
  | read name _ => w.ReadsOn id name
  | nextResult name _ => w.ReadsOn id name
  | getValue name _ => w.ReadsOn id name
  | isNull name _ => w.ReadsOn id name
  | columnName name _ => w.ReadsOn id name
  | drain name => w.ReadsOn id name
  | disposeReader name _ => w.ReadsOn id name
  | _ => False

def request? : Operation σ → Option (Request σ)
  | executeNonQuery _ r _ => some r
  | executeScalar _ r _ => some r
  | executeReader _ r _ => some r
  | createCommand _ _ r => some r
  | _ => none

/-- The operation does not close the connection past the engine, by itself or by its hooks. -/
structure Gentle [Driver σ] (id : ConnectionId) (op : Operation σ) : Prop where
  closes (mode : Mode) : op ≠ .closeNative id mode
  hooks : ∀ r ∈ op.request?, ∀ l ∈ r.logger, l.EachHook (KeepsOpen id)

end Operation

variable [Driver σ]

namespace Workspace

/-- The connection is open while it has opens, what is kept can be relied on for that, and active
transactions have their opens. -/
structure Ready (id : ConnectionId) (w : Workspace σ) : Prop where
  session : w.session.Sturdy id
  readers : ∀ c ∈ w.commands, ∀ l ∈ c.2.readerLogger?, l.EachHook (KeepsOpen id)
  transactions : ∀ t ∈ w.transactions, t.2.Intact

namespace Ready

variable {w : Workspace σ} {s : Session σ} {name : String}

theorem of_session (ready : w.Ready id) (endures : Endures id w.session s) :
    { w with session := s }.Ready id :=
  ⟨endures ready.session, ready.readers, ready.transactions⟩

theorem keepTransaction (ready : w.Ready id) (endures : Endures id w.session s) {t : Transaction σ}
    (intact : t.Intact) :
    { w with session := s, transactions := Named.insert name t w.transactions }.Ready id := by
  refine ⟨endures ready.session, ready.readers, fun e member => ?_⟩
  rcases Named.mem_insert member with rfl | old
  · exact intact
  · exact ready.transactions e old

theorem eraseTransaction (ready : w.Ready id) (endures : Endures id w.session s) :
    { w with session := s, transactions := Named.erase name w.transactions }.Ready id :=
  ⟨endures ready.session, ready.readers, fun e member =>
    ready.transactions e (List.mem_filter.1 member).1⟩

theorem keepCommand (ready : w.Ready id) (endures : Endures id w.session s) {c : Command σ}
    (hooks : ∀ l ∈ c.readerLogger?, l.EachHook (KeepsOpen id)) :
    { w with session := s, commands := Named.insert name c w.commands }.Ready id := by
  refine ⟨endures ready.session, fun e member => ?_, ready.transactions⟩
  rcases Named.mem_insert member with rfl | old
  · exact hooks
  · exact ready.readers e old

theorem eraseCommand (ready : w.Ready id) (endures : Endures id w.session s) :
    { w with session := s, commands := Named.erase name w.commands }.Ready id :=
  ⟨endures ready.session, fun e member => ready.readers e (List.mem_filter.1 member).1,
    ready.transactions⟩

theorem hooks (ready : w.Ready id) {c : Command σ} (found : Named.find? name w.commands = some c) :
    ∀ l ∈ c.readerLogger?, l.EachHook (KeepsOpen id) := ready.readers _ (Named.mem_of_find? found)

theorem intact (ready : w.Ready id) {t : Transaction σ}
    (found : Named.find? name w.transactions = some t) : t.Intact :=
  ready.transactions _ (Named.mem_of_find? found)

theorem isOpen_of_active (ready : w.Ready id) (enough : w.held id ≤ w.session.openCount id)
    (active : w.ActiveOn id name) : w.session.isOpen id := by
  obtain ⟨t, found, isActive, rfl⟩ := active
  have counted : 0 < w.openTransactions t.connection := by
    refine List.countP_pos_iff.2 ⟨_, Named.mem_of_find? found, ?_⟩
    simp [Transaction.holds, ready.intact found isActive]
  refine ready.session.live ?_
  unfold Workspace.held at enough
  omega

theorem isOpen_of_reads (ready : w.Ready id) (enough : w.held id ≤ w.session.openCount id)
    (reads : w.ReadsOn id name) : w.session.isOpen id := by
  obtain ⟨c, found, holds⟩ := reads
  have counted : 0 < w.openReaders id :=
    List.countP_pos_iff.2 ⟨_, Named.mem_of_find? found, holds⟩
  refine ready.session.live ?_
  unfold Workspace.held at enough
  omega

end Ready

omit [Driver σ] in
theorem holds_of_idle {w : Workspace σ} {name : String} (idle : ∀ c, ¬ w.ReadsOn c name)
    {c : Command σ} (found : Named.find? name w.commands = some c) (i : ConnectionId) :
    c.holds i = false := by
  rw [Bool.eq_false_iff]
  exact fun holds => idle i ⟨c, found, holds⟩

end Workspace

namespace Command

omit [Driver σ] in
theorem holding_of_idle (c : Command σ) (idle : ∀ i, c.holds i = false) {r : DataReader σ}
    (reader : c.reader = some r) : r.holding? = none := by
  rcases holding : r.holding? with _ | h
  · rfl
  · have free := idle h.connection
    simp [holds, reader, DataReader.holds, holding] at free

theorem drop_undemanding (c : Command σ) (idle : ∀ i, c.holds i = false) :
    Engine.Obeys (Gains Moment.Undemanding) c.drop := by
  unfold drop
  cases reader : c.reader with
  | none => exact .pure _
  | some r => exact ReaderUse.drop.perform_undemanding (c.holding_of_idle idle reader)

end Command

namespace Program

variable {w : Workspace σ} {name : String} {s : Session σ}

theorem ready_keepBegun (steady : Driver.Steady σ id) (ready : w.Ready id)
    {o : Outcome (Transaction σ)} (endures : Endures id w.session s)
    (intact : ∀ t, o = .ok t → t.Intact) :
    (keepBegun name o { w with session := s }).2.Ready id := by
  cases o with
  | error failure => exact ready.of_session endures
  | ok t =>
    rw [keepBegun_ok]
    refine ready.keepTransaction ?_ (intact t rfl)
    have permits := permits_endures steady
    cases Named.find? name w.transactions with
    | none => exact endures
    | some old =>
      have dropped : Engine.Obeys (Endures id) old.drop :=
        Transaction.obeys_drop permits.toLenient (fun _ => permits.works rfl) (permits.gives _ _)
      exact Law.trans endures (dropped s)

theorem ready_withReader (steady : Driver.Steady σ id) (ready : w.Ready id) (use : ReaderUse σ)
    {act : DataReader σ → Engine σ (Answer σ × DataReader σ)}
    (acts : ∀ r s, ((act r s).1.2, (act r s).2) = use.perform r s) :
    (withReader name act w).2.Ready id := by
  refine withCommand_cases (P := fun x => x.2.Ready id) ready fun c found => ?_
  cases reader : c.reader with
  | none => exact ready
  | some r =>
    have hooks := ready.hooks found
    rw [Command.readerLogger?, reader] at hooks
    have endures : Engine.Obeys (Endures id) (use.perform r) :=
      ReaderUse.perform_obeys (permits_endures steady).toServes fun l member =>
        eachHook_endures (hooks l member)
    have ends := acts r w.session
    have session : (act r w.session).2 = (use.perform r w.session).2 := congrArg Prod.snd ends
    have kept : (act r w.session).1.2 = (use.perform r w.session).1 := congrArg Prod.fst ends
    refine ready.keepCommand (session ▸ endures w.session) fun l member => ?_
    change l ∈ (act r w.session).1.2.logger? at member
    rw [kept] at member
    exact hooks l (use.logger_perform r w.session l member)

theorem met_keepBegun (steady : Driver.Steady σ id) {o : Outcome (Transaction σ)}
    (served : w.session.Served id (o, s)) :
    NeedsMet id w.session (keepBegun name o { w with session := s }).2.session := by
  cases o with
  | error failure => exact served.met
  | ok t =>
    rw [keepBegun_ok]
    change NeedsMet id w.session ((Named.find? name w.transactions).elim s _)
    cases Named.find? name w.transactions with
    | none => exact served.met
    -- The new transaction holds its open already when the old one is let go.
    | some old => exact served.met.trans (old.meets_drop steady s (served.opened rfl))

theorem met_withReader (steady : Driver.Steady σ id) (ready : w.Ready id)
    (opened : w.ReadsOn id name → w.session.isOpen id) (reads : w.ReadsOn id name)
    (use : ReaderUse σ) {act : DataReader σ → Engine σ (Answer σ × DataReader σ)}
    (acts : ∀ r s, ((act r s).1.2, (act r s).2) = use.perform r s) :
    NeedsMet id w.session (withReader name act w).2.session := by
  refine withCommand_cases (P := fun x => NeedsMet id w.session x.2.session)
    (.of_undemanding (Law.refl _)) fun c found => ?_
  cases reader : c.reader with
  | none => exact .of_undemanding (Law.refl _)
  | some r =>
    have hooks := ready.hooks found
    rw [Command.readerLogger?, reader] at hooks
    have session : (act r w.session).2 = (use.perform r w.session).2 :=
      congrArg Prod.snd (acts r w.session)
    change NeedsMet id w.session (act r w.session).2
    rw [session]
    exact ReaderUse.perform_meets steady hooks use w.session (opened reads)

theorem undemanding_withReader (idle : ∀ c, ¬ w.ReadsOn c name) (use : ReaderUse σ)
    {act : DataReader σ → Engine σ (Answer σ × DataReader σ)}
    (acts : ∀ r s, ((act r s).1.2, (act r s).2) = use.perform r s) :
    Gains Moment.Undemanding w.session (withReader name act w).2.session := by
  refine withCommand_cases (P := fun x => Gains Moment.Undemanding w.session x.2.session)
    (Law.refl _) fun c found => ?_
  cases reader : c.reader with
  | none => exact Law.refl _
  | some r =>
    have holds := c.holding_of_idle (Workspace.holds_of_idle idle found) reader
    have session : (act r w.session).2 = (use.perform r w.session).2 :=
      congrArg Prod.snd (acts r w.session)
    change Gains Moment.Undemanding w.session (act r w.session).2
    rw [session]
    exact use.perform_undemanding holds w.session

end Program

namespace Operation

variable {w : Workspace σ} {op : Operation σ}

theorem perform_ready (steady : Driver.Steady σ id) (ready : w.Ready id) (gentle : op.Gentle id) :
    (op.perform w).2.Ready id := by
  have permits := permits_endures steady
  have dropped : ∀ t : Transaction σ, Engine.Obeys (Endures id) t.drop := fun t =>
    Transaction.obeys_drop permits.toLenient (fun _ => permits.works rfl) (permits.gives _ _)
  have lets : ∀ l : Logger σ, l.EachHook (KeepsOpen id) → l.EachHook (Lets (Endures id)) :=
    fun _ => eachHook_endures
  cases op with
  | limitTrace limit => exact ready.of_session (Law.unseen rfl rfl rfl (Nat.le_refl _))
  | setCancelled reason =>
    exact ready.of_session fun sturdy => sturdy.of_connections rfl fun opened => opened
  | openNative c mode =>
    have allows : Allows (Endures (σ := σ) id) (.openConnection c mode) :=
      allows_endures steady fun _ is => by cases is
    exact ready.of_session (Engine.obeys_call allows (fun _ => rfl) w.session)
  | closeNative c mode =>
    have other : ∀ mode', NativeCall.closeConnection c mode ≠ .closeConnection id mode' := by
      intro mode' is
      cases is
      exact gentle.closes mode rfl
    exact ready.of_session
      (Engine.obeys_call (allows_endures steady other) (fun _ => rfl) w.session)
  | openConnection c mode => exact ready.of_session (permits.takes mode c w.session)
  | closeConnection c mode => exact ready.of_session (permits.gives mode c w.session)
  | begin name c isolation mode =>
    refine Program.ready_keepBegun steady ready
      (Transaction.start_endures steady mode c isolation w.session) ?_
    exact fun t starts => Transaction.start_intact (Prod.ext starts rfl)
  | adopt name c native mode =>
    refine Program.ready_keepBegun steady ready
      (Transaction.obeys_adopt permits.toLenient (permits.takes mode c) native w.session) ?_
    exact fun t adopts => Transaction.adopt_intact (Prod.ext adopts rfl)
  | complete name completion mode =>
    refine Program.withTransaction_cases (P := fun x => x.2.Ready id) ready fun t found => ?_
    have completes : Engine.Obeys (Endures id) (t.complete mode completion) :=
      Transaction.obeys_complete permits.toLenient
        (fun _ => permits.works (Transaction.needsOpen_note completion t.native mode))
        (permits.gives _ _)
    exact ready.keepTransaction (completes w.session)
      (Transaction.complete_intact mode completion (ready.intact found) w.session)
  | disposeTransaction name mode =>
    refine Program.withTransaction_cases (P := fun x => x.2.Ready id) ready fun t found => ?_
    have disposes : Engine.Obeys (Endures id) (t.dispose mode) :=
      Transaction.obeys_dispose permits.toLenient (fun _ => permits.works rfl) (permits.gives _ _)
    exact ready.keepTransaction (disposes w.session) (t.dispose_intact mode w.session)
  | dropTransaction name =>
    refine Program.withTransaction_cases (P := fun x => x.2.Ready id) ready fun t found => ?_
    exact ready.eraseTransaction (dropped t w.session)
  | declare name statement =>
    rw [declare_apply]
    refine ready.keepCommand ?_ fun l member => by cases member
    cases found : Named.find? name w.commands with
    | none => exact Law.refl _
    | some old =>
      exact Command.obeys_drop permits.dismisses
        (fun l member => lets l (ready.hooks found l member)) w.session
  | populate name statement =>
    refine Program.withCommand_cases (P := fun x => x.2.Ready id) ready fun c found => ?_
    have hooks := ready.hooks found
    exact ready.keepCommand (c := c.populate statement) (Law.refl _) hooks
  | dropCommand name =>
    refine Program.withCommand_cases (P := fun x => x.2.Ready id) ready fun c found => ?_
    exact ready.eraseCommand
      (Command.obeys_drop permits.dismisses
        (fun l member => lets l (ready.hooks found l member)) w.session)
  | executeNonQuery name r mode =>
    refine Program.withCommand_cases (P := fun x => x.2.Ready id) ready fun c found => ?_
    exact ready.of_session (Statement.obeys_executeOnce permits.toServes Shape.nonQuery_faithful
      (fun l member => lets l (gentle.hooks r rfl l member)) c.statement mode w.session)
  | executeScalar name r mode =>
    refine Program.withCommand_cases (P := fun x => x.2.Ready id) ready fun c found => ?_
    exact ready.of_session (Statement.obeys_executeOnce permits.toServes Shape.scalar_faithful
      (fun l member => lets l (gentle.hooks r rfl l member)) c.statement mode w.session)
  | executeReader name r mode =>
    refine Program.withCommand_cases (P := fun x => x.2.Ready id) ready fun c found => ?_
    have executes : Engine.Obeys (Endures id) (c.executeReader mode r) :=
      Command.obeys_executeReader permits.toServes (fun l member => lets l (gentle.hooks r rfl l member))
        (fun l member => lets l (ready.hooks found l member)) mode
    exact ready.keepCommand (executes w.session)
      (c.logger_executeReader (gentle.hooks r rfl) (ready.hooks found))
  | createCommand name method r =>
    refine Program.withCommand_cases (P := fun x => x.2.Ready id) ready fun c found => ?_
    exact ready.of_session (Statement.obeys_createCommand permits.prepares
      (fun l member => lets l (gentle.hooks r rfl l member)) c.statement method w.session)
  | read name mode => exact Program.ready_withReader steady ready (.read mode) fun _ _ => rfl
  | nextResult name mode =>
    exact Program.ready_withReader steady ready (.nextResult mode) fun _ _ => rfl
  | getValue name ordinal =>
    exact Program.ready_withReader steady ready (.getValue ordinal) fun _ _ => rfl
  | isNull name ordinal =>
      exact Program.ready_withReader steady ready (.isNull ordinal) fun _ _ => rfl
  | columnName name ordinal =>
    exact Program.ready_withReader steady ready (.columnName ordinal) fun _ _ => rfl
  | drain name => exact Program.ready_withReader steady ready .drain fun _ _ => rfl
  | disposeReader name mode =>
    exact Program.ready_withReader steady ready (.dispose mode) fun _ _ => rfl

/-- What an operation works on is open, and every call of it that needs that so finds it so. -/
theorem perform_met (steady : Driver.Steady σ id) (ready : w.Ready id)
    (enough : w.held id ≤ w.session.openCount id) (gentle : op.Gentle id)
    (concerns : op.Concerns id w) : NeedsMet id w.session (op.perform w).2.session := by
  have reads : ∀ {name}, w.ReadsOn id name → w.session.isOpen id := ready.isOpen_of_reads enough
  have active : ∀ {name}, w.ActiveOn id name → w.session.isOpen id := ready.isOpen_of_active enough
  have still : NeedsMet id w.session w.session := .of_undemanding (Law.refl _)
  cases op with
  | begin name c isolation mode =>
    exact Program.met_keepBegun steady (Transaction.start_served steady (ready.session.loggers c)
      (concerns.imp_right active))
  | adopt name c native mode =>
    exact Program.met_keepBegun steady
      (Transaction.adopt_served steady native (concerns.imp_right active))
  | complete name completion mode =>
    exact Program.withTransaction_cases (P := fun x => NeedsMet id w.session x.2.session) still
      fun t _ => t.meets_complete steady mode completion w.session (active concerns)
  | disposeTransaction name mode =>
    exact Program.withTransaction_cases (P := fun x => NeedsMet id w.session x.2.session) still
      fun t _ => t.meets_dispose steady mode w.session (active concerns)
  | dropTransaction name =>
    exact Program.withTransaction_cases (P := fun x => NeedsMet id w.session x.2.session) still
      fun t _ => t.meets_drop steady w.session (active concerns)
  | declare name statement =>
    rw [declare_apply]
    change NeedsMet id w.session ((Named.find? name w.commands).elim w.session _)
    cases found : Named.find? name w.commands with
    | none => exact still
    | some old => exact old.meets_drop steady (ready.hooks found) w.session (reads concerns)
  | dropCommand name =>
    exact Program.withCommand_cases (P := fun x => NeedsMet id w.session x.2.session) still
      fun c found => c.meets_drop steady (ready.hooks found) w.session (reads concerns)
  | executeNonQuery name r mode =>
    exact Program.withCommand_cases (P := fun x => NeedsMet id w.session x.2.session) still
      fun c _ => c.statement.executeOnce_met steady Shape.nonQuery_faithful (gentle.hooks r rfl)
        (.inl concerns)
  | executeScalar name r mode =>
    exact Program.withCommand_cases (P := fun x => NeedsMet id w.session x.2.session) still
      fun c _ => c.statement.executeOnce_met steady Shape.scalar_faithful (gentle.hooks r rfl)
        (.inl concerns)
  | executeReader name r mode =>
    exact Program.withCommand_cases (P := fun x => NeedsMet id w.session x.2.session) still
      fun c found => c.executeReader_met steady (gentle.hooks r rfl) (ready.hooks found)
        (concerns.imp_right reads)
  | createCommand name method r =>
    refine Program.withCommand_cases (P := fun x => NeedsMet id w.session x.2.session) still
      fun c _ => ?_
    exact .of_undemanding (c.statement.obeys_createCommand lenient_undemanding.prepares
      (fun l _ => eachHook_undemanding l) method w.session)
  | read name mode =>
      exact Program.met_withReader steady ready reads concerns (.read mode) fun _ _ => rfl
  | nextResult name mode =>
    exact Program.met_withReader steady ready reads concerns (.nextResult mode) fun _ _ => rfl
  | getValue name ordinal =>
    exact Program.met_withReader steady ready reads concerns (.getValue ordinal) fun _ _ => rfl
  | isNull name ordinal =>
    exact Program.met_withReader steady ready reads concerns (.isNull ordinal) fun _ _ => rfl
  | columnName name ordinal =>
    exact Program.met_withReader steady ready reads concerns (.columnName ordinal) fun _ _ => rfl
  | drain name => exact Program.met_withReader steady ready reads concerns .drain fun _ _ => rfl
  | disposeReader name mode =>
    exact Program.met_withReader steady ready reads concerns (.dispose mode) fun _ _ => rfl
  | _ => exact concerns.elim

theorem perform_undemanding (idle : ∀ c, ¬ op.Concerns c w) :
    Gains Moment.Undemanding w.session (op.perform w).2.session := by
  have still : Gains Moment.Undemanding w.session w.session := Law.refl _
  have gives := ConnectionId.releaseOutcome_undemanding (σ := σ)
  cases op with
  | limitTrace limit => exact .of_journal_eq rfl
  | setCancelled reason => exact .of_journal_eq rfl
  | openNative c mode =>
    have allows : Allows (Gains (σ := σ) Moment.Undemanding) (.openConnection c mode) :=
      allows_undemanding rfl
    exact Engine.obeys_call allows (fun _ => rfl) w.session
  | closeNative c mode =>
    have allows : Allows (Gains (σ := σ) Moment.Undemanding) (.closeConnection c mode) :=
      allows_undemanding rfl
    exact Engine.obeys_call allows (fun _ => rfl) w.session
  | openConnection c mode => exact ConnectionId.acquire_undemanding mode c w.session
  | closeConnection c mode => exact gives mode c w.session
  | begin name c isolation mode => exact (idle c (.inl rfl)).elim
  | adopt name c native mode => exact (idle c (.inl rfl)).elim
  | complete name completion mode =>
    refine Program.withTransaction_cases
      (P := fun x => Gains Moment.Undemanding w.session x.2.session)
      still fun t found => ?_
    exact Transaction.obeys_complete lenient_undemanding
      (fun active => (idle t.connection ⟨t, found, active, rfl⟩).elim) (gives mode _) w.session
  | disposeTransaction name mode =>
    refine Program.withTransaction_cases
      (P := fun x => Gains Moment.Undemanding w.session x.2.session)
      still fun t found => ?_
    exact Transaction.obeys_dispose lenient_undemanding
      (fun active => (idle t.connection ⟨t, found, active, rfl⟩).elim) (gives mode _) w.session
  | dropTransaction name =>
    refine Program.withTransaction_cases
      (P := fun x => Gains Moment.Undemanding w.session x.2.session)
      still fun t found => ?_
    exact Transaction.obeys_drop lenient_undemanding
      (fun active => (idle t.connection ⟨t, found, active, rfl⟩).elim) (gives .blocking _) w.session
  | declare name statement =>
    rw [declare_apply]
    change Gains Moment.Undemanding w.session ((Named.find? name w.commands).elim w.session _)
    cases found : Named.find? name w.commands with
    | none => exact still
    | some old => exact old.drop_undemanding (Workspace.holds_of_idle idle found) w.session
  | populate name statement =>
    exact Program.withCommand_cases (P := fun x => Gains Moment.Undemanding w.session x.2.session)
      still fun _ _ => still
  | dropCommand name =>
    exact Program.withCommand_cases (P := fun x => Gains Moment.Undemanding w.session x.2.session)
      still fun c found => c.drop_undemanding (Workspace.holds_of_idle idle found) w.session
  | executeNonQuery name r mode => exact (idle r.connection rfl).elim
  | executeScalar name r mode => exact (idle r.connection rfl).elim
  | executeReader name r mode => exact (idle r.connection (.inl rfl)).elim
  | createCommand name method r => exact (idle r.connection rfl).elim
  | read name mode => exact Program.undemanding_withReader idle (.read mode) fun _ _ => rfl
  | nextResult name mode =>
      exact Program.undemanding_withReader idle (.nextResult mode) fun _ _ => rfl
  | getValue name ordinal =>
    exact Program.undemanding_withReader idle (.getValue ordinal) fun _ _ => rfl
  | isNull name ordinal =>
      exact Program.undemanding_withReader idle (.isNull ordinal) fun _ _ => rfl
  | columnName name ordinal =>
    exact Program.undemanding_withReader idle (.columnName ordinal) fun _ _ => rfl
  | drain name => exact Program.undemanding_withReader idle .drain fun _ _ => rfl
  | disposeReader name mode =>
    exact Program.undemanding_withReader idle (.dispose mode) fun _ _ => rfl

end Operation

namespace Program

variable {w : Workspace σ}

theorem ready_run (steady : Driver.Steady σ id) (ready : w.Ready id) (ops : List (Operation σ))
    (gentle : ∀ op ∈ ops, op.Gentle id) : (run ops w).2.Ready id := by
  induction ops generalizing w with
  | nil => exact ready
  | cons op ops ih =>
    rw [run_cons]
    have next := op.perform_ready steady ready (gentle op (List.mem_cons_self ..))
    exact ih next fun later member => gentle later (List.mem_cons_of_mem _ member)

/-- As long as a program gives back no more opens of a connection than it took, and nothing closes
the connection past the engine, every operation that works on the connection finds it open: so does
each of its calls that need that, at its own moment. An operation that works on no connection makes
no such calls. -/
theorem needs_met_of_concerns (id : ConnectionId) (steady : Driver.Steady σ id) (w : Workspace σ)
    (fresh : w.Fresh)
    (loggers : ∀ c, ∀ l ∈ (w.session.connections c).logger, l.EachHook (KeepsOpen id))
    (ops : List (Operation σ)) (gentle : ∀ op ∈ ops, op.Gentle id)
    (own : ∀ n, closed id (ops.take n) ≤ opened id (ops.take n) w)
    (n : Nat) (before : Workspace σ) (reaches : (run (ops.take n) w).2 = before)
    (op : Operation σ) (next : ops[n]? = some op) :
    (op.Concerns id before → NeedsMet id before.session (op.perform before).2.session) ∧
      ((∀ c, ¬ op.Concerns c before) →
        Gains Moment.Undemanding before.session (op.perform before).2.session) := by
  have start : w.Ready id := by
    refine ⟨⟨fun held => ?_, loggers⟩, ?_, ?_⟩
    · rw [fresh.openCount] at held
      cases held
    · rw [fresh.commands]
      exact fun c member => by cases member
    · rw [fresh.transactions]
      exact fun t member => by cases member
  have ready : before.Ready id := reaches ▸ ready_run steady start (ops.take n) fun op member =>
    gentle op (List.mem_of_mem_take member)
  -- What is held is covered by the opens that there are, by the accounts so far.
  have enough : before.held id ≤ before.session.openCount id := by
    have initial : w.session.openCount id = w.held id := by rw [fresh.openCount, fresh.held]
    have accounts := (follows_run fresh.sound initial ops own n).2
    have within := own n
    rw [reaches] at accounts
    omega
  have member : op ∈ ops := List.mem_of_getElem? next
  exact ⟨op.perform_met steady ready enough (gentle op member), op.perform_undemanding⟩

omit [Driver σ] in
/-- A transaction and a reader share a connection that the program opened and gave back; the commit
is the last to need it. -/
theorem needs_met_of_concerns_commit :
    let id : ConnectionId := ⟨0⟩
    let w : Workspace Script := .begun ⟨{}, none⟩
    let r : Request Script := { connection := id, logger := none, detailedErrors := false }
    let commit : Operation Script := .complete "t" .commit .blocking
    let ops : List (Operation Script) := [.openConnection id .blocking,
      .begin "t" id .serializable .async, .declare "q" ⟨"SELECT 1", []⟩,
      .executeReader "q" r .async, .closeConnection id .async, .disposeReader "q" .blocking, commit]
    let before := (run (ops.take 6) w).2
    w.Fresh ∧ (∀ op ∈ ops, op.Gentle id) ∧
      (∀ n, closed id (ops.take n) ≤ opened id (ops.take n) w) ∧ commit.Concerns id before ∧
      NeedsMet id before.session (commit.perform before).2.session := by
  intro id w r commit ops before
  have fresh : w.Fresh := ⟨rfl, rfl, fun _ => rfl⟩
  have gentle : ∀ op ∈ ops, op.Gentle id := by
    have quiet : ∀ op : Operation Script, (∀ mode, op ≠ .closeNative id mode) →
        (∀ r ∈ op.request?, r.logger = none) → op.Gentle id := fun op closes silent =>
      ⟨closes, fun r asked l member => by simp [silent r asked] at member⟩
    simp only [ops, List.forall_mem_cons]
    refine ⟨?_, ?_, ?_, ?_, ?_, ?_, ?_, by simp⟩
    all_goals refine quiet _ (fun mode => by simp [commit]) ?_
    all_goals simp [Operation.request?, r, commit]
  have own : ∀ n, closed id (ops.take n) ≤ opened id (ops.take n) w := by
    intro n
    by_cases short : n < 7
    · have all : ∀ n < 7, closed id (ops.take n) ≤ opened id (ops.take n) w := by
        decide +kernel +zetaReduce
      exact all n short
    · rw [List.take_of_length_le (by simp [ops]; omega)]
      decide +kernel +zetaReduce
  have concerns : commit.Concerns id before :=
    Workspace.activeOn_iff.2 (by decide +kernel +zetaReduce)
  have loggers : ∀ c, ∀ l ∈ (w.session.connections c).logger, l.EachHook (KeepsOpen id) :=
    fun c l member => by cases member
  have next : ops[6]? = some commit := rfl
  exact ⟨fresh, gentle, own, concerns,
    (needs_met_of_concerns id (Script.steady id) w fresh loggers ops gentle own 6 before rfl commit
      next).1 concerns⟩

end Program

end SqlExecution
