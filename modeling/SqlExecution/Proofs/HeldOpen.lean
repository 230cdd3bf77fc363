import SqlExecution.Proofs.StayingOpen

/-! A connection that has opens is open, whatever the engine does: the driver is asked to close it
with the last open only. -/

namespace SqlExecution

variable {σ α : Type} [Driver σ] {id : ConnectionId}

open Session

namespace Session

/-- As long as the connection has opens it is open, and no hook of a connection's logger closes
it. -/
structure Sturdy (id : ConnectionId) (s : Session σ) : Prop where
  live : 0 < s.openCount id → s.isOpen id
  loggers (c : ConnectionId) : ∀ l ∈ (s.connections c).logger, l.EachHook (KeepsOpen id)

def Endures (id : ConnectionId) (s t : Session σ) : Prop := s.Sturdy id → t.Sturdy id

variable {s t : Session σ}

theorem Sturdy.of_connections (sturdy : s.Sturdy id) (connections : t.connections = s.connections)
    (opened : s.isOpen id → t.isOpen id) : t.Sturdy id := by
  refine ⟨fun held => opened (sturdy.live ?_), fun c => ?_⟩
  · rw [openCount, connections] at held
    exact held
  · rw [connections]
    exact sturdy.loggers c

instance : Law (Endures id : Session σ → Session σ → Prop) where
  trans first second sturdy := second (first sturdy)
  unseen _ scene connections _ sturdy := sturdy.of_connections connections fun opened => by
    rw [isOpen, scene]
    exact opened
  traced _ _ sturdy := sturdy.of_connections rfl fun opened => opened

theorem notes_endures (id : ConnectionId) (e : Entry) : Notes (Endures (σ := σ) id) e :=
  fun _ sturdy => sturdy.of_connections rfl fun opened => opened

theorem lets_endures {f : Scene σ → Scene σ} (keeps : KeepsOpen id f) : Lets (Endures id) f :=
  fun s sturdy => sturdy.of_connections rfl (keeps s.scene)

theorem eachHook_endures {l : Logger σ} (hooks : l.EachHook (KeepsOpen id)) :
    l.EachHook (Lets (Endures id)) := hooks.mono fun _ => lets_endures

theorem allows_endures (steady : Driver.Steady σ id) {call : NativeCall}
    (other : ∀ mode, call ≠ .closeConnection id mode) : Allows (Endures (σ := σ) id) call :=
  ⟨notes_endures id _, lets_endures (steady.keeps call other)⟩

end Session

namespace ConnectionId

theorem acquire_endures (steady : Driver.Steady σ id) (mode : Mode) (c : ConnectionId) :
    Attempt.Obeys (Endures (σ := σ) id) (c.acquire mode) := by
  intro s sturdy
  have kept := acquire_staysOpen steady mode c s
  rcases ends : (c.acquire mode).observe s with ⟨failure | opened, t⟩
  all_goals rw [ends] at kept
  · have connections := acquire_error (congrArg Prod.fst ends)
    rw [ends] at connections
    exact sturdy.of_connections connections fun isOpen => (kept isOpen).1
  · have connections := acquire_ok (congrArg Prod.fst ends)
    rw [ends] at connections
    refine ⟨fun (held : 0 < t.openCount id) => ?_, fun i => ?_⟩
    · by_cases same : id = c
      · subst same
        exact isOpen_of_acquire steady ends
      · have count := s.openCount_taken c opened id
        rw [← connections, if_neg same] at count
        change t.openCount id = _ at count
        exact (kept (sturdy.live (by omega))).1
    · change ∀ l ∈ (t.connections i).logger, _
      rw [connections, logger_taken]
      exact sturdy.loggers i

theorem releaseOutcome_endures (steady : Driver.Steady σ id) (mode : Mode) (c : ConnectionId) :
    Engine.Obeys (Endures (σ := σ) id) (c.releaseOutcome mode) := by
  intro s sturdy
  have connections := c.releaseOutcome_connections mode s
  have count := s.openCount_given c id
  refine ⟨fun held => ?_, fun i => ?_⟩
  · rw [openCount, connections] at held
    by_cases same : id = c
    · -- The last open may be given back with the connection; before that the driver is not called.
      subst same
      rw [count, if_pos rfl] at held
      have kept : (s.connections id).released.2 = false := by
        rw [Bool.eq_false_iff]
        intro closes
        have last := ((s.connections id).closes_released.1 closes).1
        change 0 < (s.connections id).openCount - 1 at held
        omega
      change ((id.release mode).observe s).2.isOpen id
      rw [release_of_kept kept]
      exact sturdy.live (by omega)
    · rw [count, if_neg same] at held
      have stays : Engine.Obeys (StaysOpen (σ := σ) id) (c.releaseOutcome mode) := by
        refine obeys_releaseOutcome (allows_staysOpen steady fun _ is => ?_)
          fun _ opened => ⟨opened, .of_journal_eq rfl⟩
        cases is
        exact same rfl
      exact (stays s (sturdy.live held)).1
  · rw [connections, logger_given]
    exact sturdy.loggers i

end ConnectionId

theorem Session.permits_endures (steady : Driver.Steady σ id) : Permits (Endures (σ := σ) id) where
  hears _ _ _ := notes_endures id _
  upkeep {call} kind := allows_endures steady fun mode is => by
    rw [is] at kind
    cases kind
  wraps _ := notes_endures id _
  ambient s c a sturdy := by
    refine ⟨fun held => sturdy.live ?_, fun i => ?_⟩
    · by_cases same : id = c
      · subst same
        simpa [openCount] using held
      · simpa [openCount, setConnection_of_ne s same] using held
    · by_cases same : i = c
      · subst same
        rw [setConnection_same]
        exact sturdy.loggers i
      · rw [setConnection_of_ne s same]
        exact sturdy.loggers i
  works {call} kind := allows_endures steady fun mode is => by
    rw [is] at kind
    cases kind
  takes := ConnectionId.acquire_endures steady
  gives := ConnectionId.releaseOutcome_endures steady

theorem Transaction.start_endures (steady : Driver.Steady σ id) (mode : Mode) (c : ConnectionId)
    (isolation : IsolationLevel) :
    Attempt.Obeys (Endures (σ := σ) id) (start mode c isolation) := by
  intro s sturdy
  have permits := permits_endures steady
  have beginning := start_beginning mode c isolation s
  have taken := permits.takes mode c s sturdy
  have begins : ∀ t : Session σ, t.Sturdy id →
      ((beginNative mode c isolation ⟨t.nextSerial⟩).observe (serialized t)).2.Sturdy id := by
    intro t sturdy
    have here : (serialized t).Sturdy id := sturdy.of_connections rfl fun opened => opened
    exact beginNative_obeys permits.hears (permits.works rfl) _
      (fun l member => eachHook_endures (here.loggers c l member)) here
  generalize (start mode c isolation).observe s = ends at beginning ⊢
  obtain ⟨o, last⟩ := ends
  cases beginning with
  | unentered => exact sturdy
  | unopened stops => rwa [stops] at taken
  | @unbegun _ failure t u opens stops =>
    rw [opens] at taken
    have begun := begins t taken
    rw [stops] at begun
    exact obeys_releaseAfterFailure (permits.gives mode c) u begun
  | @begun _ native t u opens begun =>
    rw [opens] at taken
    have wraps := begins t taken
    rw [begun] at wraps
    exact obeys_wrap permits.wraps (fun s => permits.ambient s c) native ⟨t.nextSerial⟩ true u wraps

theorem Statement.logger_of_openCursor {s : Statement} {mode : Mode} {r : Request σ}
    {start t : Session σ} {b : ReaderBinding σ}
    (opens : (s.openCursor mode r).observe start = (.ok b, t)) : b.logger = r.logger := by
  have delivery := s.openCursor_delivery mode r start
  rw [opens] at delivery
  cases delivery <;> rfl

namespace Command

variable {mode : Mode} {r : Request σ} {c : Command σ} {s : Session σ}

theorem executeReader_met (steady : Driver.Steady σ id)
    (hooks : ∀ l ∈ r.logger, l.EachHook (KeepsOpen id))
    (before : ∀ l ∈ c.readerLogger?, l.EachHook (KeepsOpen id))
    (concerned : id = r.connection ∨ s.isOpen id) : NeedsMet id s (c.executeReader mode r s).2 := by
  have served : s.Served id ((c.statement.openCursor mode r).observe s) :=
    Statement.openCursor_served steady hooks concerned
  rw [executeReader_apply]
  rcases opens : (c.statement.openCursor mode r).observe s with ⟨failure | b, t⟩
  all_goals rw [opens] at served
  · exact served.met
  · -- What the reader held before is released while the new binding holds its open.
    have previous : ∀ l ∈ (c.reader.getD {}).logger?, l.EachHook (KeepsOpen id) :=
      c.forall_logger_getD before
    exact served.met.trans (DataReader.meets_rebind steady mode previous b t (served.opened rfl))

theorem logger_executeReader {Q : Logger σ → Prop} (requested : ∀ l ∈ r.logger, Q l)
    (before : ∀ l ∈ c.readerLogger?, Q l) :
    ∀ l ∈ (c.executeReader mode r s).1.2.readerLogger?, Q l := by
  rw [executeReader_apply]
  rcases opens : (c.statement.openCursor mode r).observe s with ⟨failure | b, t⟩
  · exact before
  · intro l (member : l ∈ b.logger)
    rw [Statement.logger_of_openCursor opens] at member
    exact requested l member

theorem meets_drop (steady : Driver.Steady σ id)
    (hooks : ∀ l ∈ c.readerLogger?, l.EachHook (KeepsOpen id)) : Engine.Meets id c.drop := by
  unfold drop
  cases reader : c.reader with
  | none => exact Engine.meets_of_undemanding (.pure _)
  | some r =>
    rw [readerLogger?, reader] at hooks
    exact DataReader.meets_drop steady hooks

end Command

namespace ReaderUse

variable {R : Session σ → Session σ → Prop} [Law R] {use : ReaderUse σ} {r : DataReader σ}

theorem perform_obeys (serves : Serves R) (hooks : ∀ l ∈ r.logger?, l.EachHook (Lets R)) :
    Engine.Obeys R (use.perform r) := by
  cases releasing : use.releasing? with
  | none =>
    have reads : ∀ call, Holding.Reads r.holding? call → Allows R call := by
      intro call h
      obtain ⟨c, _, reads⟩ := h
      exact serves.works (NativeCall.needsOpen_of_reads reads)
    exact fun s => (perform_lawful releasing reads s).1
  | some mode =>
    cases use with
    | dispose mode' =>
        exact (DataReader.obeys_dispose serves.dismisses mode' hooks).bind fun _ => .pure _
    | drop => exact (DataReader.obeys_drop serves.dismisses hooks).bind fun _ => .pure _
    | supersede mode' b =>
        exact (DataReader.obeys_rebind serves.dismisses mode' hooks b).bind fun _ => .pure _
    | _ => simp [releasing?] at releasing

theorem logger_perform (use : ReaderUse σ) (r : DataReader σ) (s : Session σ) :
    ∀ l ∈ (use.perform r s).1.logger?, l ∈ r.logger? := by
  intro l member
  cases releasing : use.releasing? with
  | none =>
    have any : ∀ call, Holding.Reads r.holding? call →
        Allows (Within (σ := σ) fun _ => True) call :=
      fun _ _ => allows_within trivial
    rwa [(perform_lawful releasing any s).2.logger] at member
  | some mode =>
    cases use with
    | dispose mode' =>
      change l ∈ (r.dispose mode' s).1.2.logger? at member
      unfold DataReader.dispose at member
      rcases phase : r.phase with _ | b | _
      all_goals rw [phase] at member
      · exact member
      · change l ∈ r.retired.logger? at member
        rw [r.logger_retired] at member
        cases member
      · exact member
    | drop =>
      change l ∈ r.retired.logger? at member
      rw [r.logger_retired] at member
      cases member
    | supersede mode' b =>
      change l ∈ r.retired.logger? at member
      rw [r.logger_retired] at member
      cases member
    | _ => simp [releasing?] at releasing

theorem perform_meets (steady : Driver.Steady σ id)
    (hooks : ∀ l ∈ r.logger?, l.EachHook (KeepsOpen id)) (use : ReaderUse σ) :
    Engine.Meets id (use.perform r) := by
  cases releasing : use.releasing? with
  | none =>
    have reads : ∀ call, Holding.Reads r.holding? call → Allows (StaysOpen (σ := σ) id) call := by
      intro call h
      obtain ⟨c, _, reads⟩ := h
      exact works_staysOpen steady (NativeCall.needsOpen_of_reads reads)
    exact Engine.meets_of_staysOpen fun s => (perform_lawful releasing reads s).1
  | some mode =>
    cases use with
    | dispose mode' => exact (DataReader.meets_dispose steady mode' hooks).before fun _ => .pure _
    | drop => exact (DataReader.meets_drop steady hooks).before fun _ => .pure _
    | supersede mode' b =>
        exact (DataReader.meets_rebind steady mode' hooks b).before fun _ => .pure _
    | _ => simp [releasing?] at releasing

theorem perform_undemanding (holds : r.holding? = none) (use : ReaderUse σ) :
    Engine.Obeys (Gains Moment.Undemanding) (use.perform r) := by
  intro s
  cases releasing : use.releasing? with
  | none =>
    have reads : ∀ call, Holding.Reads r.holding? call →
        Allows (Gains (σ := σ) Moment.Undemanding) call := by
      intro call h
      obtain ⟨c, held, _⟩ := h
      rw [holds] at held
      cases held
    exact (perform_lawful releasing reads s).1
  | some mode =>
    have spent := r.dispose_of_none mode holds s
    have dropped : Gains Moment.Undemanding s (r.dispose mode s).2 := by
      rw [spent]
      exact Law.refl s
    cases use with
    | dispose mode' =>
      cases releasing
      exact dropped
    | drop =>
      cases releasing
      change Gains Moment.Undemanding s (r.drop s).2
      unfold DataReader.drop
      rw [Engine.bind_apply, spent]
      exact Law.refl s
    | supersede mode' b =>
      cases releasing
      exact dropped.trans (Engine.obeys_warn _ _ _ _ _)
    | _ => simp [releasing?] at releasing

end ReaderUse

end SqlExecution
