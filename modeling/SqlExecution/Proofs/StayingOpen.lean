import SqlExecution.Proofs.Beginning
import SqlExecution.Proofs.Laws.Holders

/-! What is done on a connection finds it open. Taking an open makes sure that the connection is
open; from then on everything leaves it so up to the release, and what comes after the release does
not need it. -/

namespace SqlExecution

variable {σ α β : Type}

open Session

/-- What is done to the scene leaves the connection open if it is. -/
def KeepsOpen [Driver σ] (id : ConnectionId) (f : Scene σ → Scene σ) : Prop :=
  ∀ s, Driver.isOpen id s.state = true → Driver.isOpen id (f s).state = true

/-- The connection is open after it was opened, and nothing but closing it closes it. -/
structure Driver.Steady (σ : Type) [Driver σ] (id : ConnectionId) : Prop where
  opens (mode : Mode) (s : Scene σ) :
    ((Driver.openConnection id).perform mode s).1 = .ok () →
      Driver.isOpen id ((Driver.openConnection id).perform mode s).2.state = true
  keeps (call : NativeCall) :
    (∀ mode, call ≠ .closeConnection id mode) → KeepsOpen (σ := σ) id call.effect

/-- A call that needs the connection open finds it open. -/
def Moment.Met [Driver σ] (id : ConnectionId) (m : Moment σ) : Prop :=
  ∀ call, m.entry = .native call → call.needsOpen = true → Driver.isOpen id m.scene.state = true

/-- Nothing that needs a connection open. -/
def Moment.Undemanding (m : Moment σ) : Prop :=
  ∀ call, m.entry = .native call → call.needsOpen = false

theorem Moment.Undemanding.met [Driver σ] {m : Moment σ} (h : m.Undemanding) (id : ConnectionId) :
    m.Met id := fun call is needs => by
  rw [h call is] at needs
  cases needs

namespace Session

variable {s t u : Session σ} {K L : Moment σ → Prop} {id : ConnectionId}

/-- From one moment to the other the journal gained entries of a kind only. -/
def Gains (K : Moment σ → Prop) (s t : Session σ) : Prop :=
  ∃ made, t.journal = s.journal ++ made ∧ ∀ m ∈ made, K m

theorem Gains.of_journal_eq (same : t.journal = s.journal) : Gains K s t :=
  ⟨[], by rw [same, List.append_nil], by simp⟩

theorem Gains.trans (first : Gains K s t) (second : Gains K t u) : Gains K s u := by
  obtain ⟨made, journal, kind⟩ := first
  obtain ⟨more, journal', kind'⟩ := second
  refine ⟨made ++ more, ?_, List.forall_mem_append.2 ⟨kind, kind'⟩⟩
  rw [journal', journal, List.append_assoc]

theorem Gains.mono (weaker : ∀ m, K m → L m) (h : Gains K s t) : Gains L s t := by
  obtain ⟨made, journal, kind⟩ := h
  exact ⟨made, journal, fun m member => weaker m (kind m member)⟩

theorem gains_noted {e : Entry} (kind : K ⟨s.scene, e⟩) : Gains K s (s.noted e) :=
  ⟨[⟨s.scene, e⟩], rfl, by simpa using kind⟩

theorem logger_taken (s : Session σ) (id : ConnectionId) (opened : Bool) (i : ConnectionId) :
    (s.taken id opened i).logger = (s.connections i).logger := by
  by_cases same : i = id
  · simp [taken, same, Connection.acquired]
  · simp [taken, setConnection_of_ne, same]

theorem logger_given (s : Session σ) (id i : ConnectionId) :
    (s.given id i).logger = (s.connections i).logger := by
  by_cases same : i = id
  · simp only [given, same, setConnection_same, Connection.released]
    split <;> rfl
  · simp [given, setConnection_of_ne, same]

instance : Law (Gains Moment.Undemanding : Session σ → Session σ → Prop) where
  trans := Gains.trans
  unseen journal _ _ _ := .of_journal_eq journal
  traced record s := gains_noted fun call is => by cases is

theorem allows_undemanding [Driver σ] {call : NativeCall} (kind : call.needsOpen = false) :
    Allows (Gains (σ := σ) Moment.Undemanding) call := by
  refine ⟨fun s => gains_noted fun call' is => ?_, fun s => .of_journal_eq rfl⟩
  cases is
  exact kind

theorem lenient_undemanding [Driver σ] : Lenient (Gains (σ := σ) Moment.Undemanding) where
  hears hook d _ s := gains_noted fun call is => by cases is
  upkeep {call} kind := allows_undemanding (by cases call <;> first | rfl | cases kind)
  wraps w s := gains_noted fun call is => by cases is
  ambient s id a := .of_journal_eq rfl

theorem eachHook_undemanding (l : Logger σ) :
    l.EachHook (Lets (Gains (σ := σ) Moment.Undemanding)) :=
  l.eachHook_of_forall fun _ _ => .of_journal_eq rfl

section Driven

variable [Driver σ]

def isOpen (id : ConnectionId) (s : Session σ) : Prop := Driver.isOpen id s.scene.state = true

/-- Every call that needs the connection open finds it open. -/
def NeedsMet (id : ConnectionId) : Session σ → Session σ → Prop := Gains (Moment.Met id)

/-- If the connection is open, it stays open, and every call that needs it so finds it so. -/
def StaysOpen (id : ConnectionId) (s t : Session σ) : Prop :=
  s.isOpen id → t.isOpen id ∧ NeedsMet id s t

theorem NeedsMet.of_undemanding (h : Gains Moment.Undemanding s t) : NeedsMet id s t :=
  h.mono fun _ kind => kind.met id

theorem NeedsMet.trans (first : NeedsMet id s t) (second : NeedsMet id t u) : NeedsMet id s u :=
  Gains.trans first second

theorem NeedsMet.before (h : NeedsMet id s t) (rest : Gains Moment.Undemanding t u) :
    NeedsMet id s u := h.trans (.of_undemanding rest)

instance : Law (StaysOpen id : Session σ → Session σ → Prop) where
  trans first second opened := by
    obtain ⟨opened', met⟩ := first opened
    obtain ⟨opened'', met'⟩ := second opened'
    exact ⟨opened'', met.trans met'⟩
  unseen journal scene _ _ opened := by
    refine ⟨?_, .of_journal_eq journal⟩
    rw [isOpen, scene]
    exact opened
  traced record s opened := ⟨opened, gains_noted fun call is => by cases is⟩

theorem notes_staysOpen (id : ConnectionId) (e : Entry) : Notes (StaysOpen (σ := σ) id) e :=
  fun _ opened => ⟨opened, gains_noted fun _ _ _ => opened⟩

theorem lets_staysOpen {f : Scene σ → Scene σ} (keeps : KeepsOpen id f) : Lets (StaysOpen id) f :=
  fun s opened => ⟨keeps s.scene opened, .of_journal_eq rfl⟩

theorem allows_staysOpen (steady : Driver.Steady σ id) {call : NativeCall}
    (other : ∀ mode, call ≠ .closeConnection id mode) : Allows (StaysOpen (σ := σ) id) call :=
  ⟨notes_staysOpen id _, lets_staysOpen (steady.keeps call other)⟩

theorem works_staysOpen (steady : Driver.Steady σ id) {call : NativeCall}
    (kind : call.needsOpen = true) : Allows (StaysOpen (σ := σ) id) call :=
  allows_staysOpen steady fun mode is => by
    rw [is] at kind
    cases kind

theorem lenient_staysOpen (steady : Driver.Steady σ id) : Lenient (StaysOpen (σ := σ) id) where
  hears hook d _ := notes_staysOpen id _
  upkeep {call} kind := allows_staysOpen steady fun mode is => by
    rw [is] at kind
    cases kind
  wraps w := notes_staysOpen id _
  ambient s id a opened := ⟨opened, .of_journal_eq rfl⟩

theorem eachHook_staysOpen {l : Logger σ} (hooks : l.EachHook (KeepsOpen id)) :
    l.EachHook (Lets (StaysOpen id)) := hooks.mono fun _ => lets_staysOpen

end Driven

end Session

namespace ConnectionId

variable [Driver σ] {mode : Mode} {id c : ConnectionId} {s t : Session σ}

theorem acquire_undemanding (mode : Mode) (c : ConnectionId) :
    Attempt.Obeys (Gains (σ := σ) Moment.Undemanding) (c.acquire mode) :=
  obeys_acquire (allows_undemanding rfl) fun _ _ => .of_journal_eq rfl

theorem releaseOutcome_undemanding (mode : Mode) (c : ConnectionId) :
    Engine.Obeys (Gains (σ := σ) Moment.Undemanding) (c.releaseOutcome mode) :=
  obeys_releaseOutcome (allows_undemanding rfl) fun _ => .of_journal_eq rfl

theorem acquire_staysOpen (steady : Driver.Steady σ id) (mode : Mode) (c : ConnectionId) :
    Attempt.Obeys (StaysOpen (σ := σ) id) (c.acquire mode) :=
  obeys_acquire (allows_staysOpen steady fun _ is => by cases is)
    fun _ _ opened => ⟨opened, .of_journal_eq rfl⟩

theorem isOpen_of_acquire (steady : Driver.Steady σ c) {opened : Bool}
    (ends : (c.acquire mode).observe s = (.ok opened, t)) : t.isOpen c := by
  obtain ⟨o, u, opens, counts⟩ := Attempt.ok_of_bind_ok ends
  cases counts
  change Driver.isOpen c u.scene.state = true
  cases state : Driver.isOpen c s.scene.state with
  | true =>
    rw [openNative_of_open state] at opens
    cases opens
    exact state
  | false =>
    obtain ⟨v, run, -, scene⟩ := openNative_of_closed mode state
    rw [run] at opens
    have same : v = u := congrArg Prod.snd opens
    have answer := congrArg Prod.fst opens
    rw [← same, scene]
    refine steady.opens mode s.scene ?_
    cases asked : ((Driver.openConnection c).perform mode s.scene).1 with
    | ok _ => rfl
    | error failure =>
      rw [asked] at answer
      cases answer

end ConnectionId

variable [Driver σ] {id : ConnectionId}

/-- If the connection is open at first, every call that needs it so finds it so. -/
def Engine.Meets (id : ConnectionId) (m : Engine σ α) : Prop :=
  ∀ s, s.isOpen id → NeedsMet id s (m s).2

namespace Engine

variable {m : Engine σ α} {f : α → Engine σ β}

theorem meets_of_undemanding (h : Obeys (Gains Moment.Undemanding) m) : Meets id m :=
  fun s _ => .of_undemanding (h s)

theorem meets_of_staysOpen (h : Obeys (StaysOpen id) m) : Meets id m :=
  fun s opened => (h s opened).2

theorem Meets.after (here : Obeys (StaysOpen id) m) (rest : ∀ a, Meets id (f a)) :
    Meets id (m >>= f) := by
  intro s opened
  obtain ⟨opened', met⟩ := here s opened
  exact met.trans (rest _ _ opened')

theorem Meets.before (here : Meets id m) (rest : ∀ a, Obeys (Gains Moment.Undemanding) (f a)) :
    Meets id (m >>= f) :=
  fun s opened => (here s opened).before (rest _ _)

end Engine

namespace DataReader

theorem meets_dispose (steady : Driver.Steady σ id) (mode : Mode) {r : DataReader σ}
    (hooks : ∀ l ∈ r.logger?, l.EachHook (KeepsOpen id)) : Engine.Meets id (r.dispose mode) := by
  unfold dispose
  rcases phase : r.phase with _ | b | _
  · exact Engine.meets_of_undemanding (.pure _)
  · have same : r.logger? = b.logger := by simp [logger?, phase, ReaderPhase.binding?]
    rw [same] at hooks
    have announced : Engine.Obeys (StaysOpen id) (r.announce mode b) :=
      obeys_announce (fun d _ => notes_staysOpen id _) fun l member =>
        eachHook_staysOpen (hooks l member)
    have closed : Engine.Obeys (StaysOpen id) (closeCursor mode b.cursor) :=
      obeys_closeCursor fun c _ => works_staysOpen steady rfl
    -- The cursor is closed with the open still in hand; what follows may give it back.
    have released : Engine.Meets id (releaseBinding mode b) := .after closed fun o =>
      Engine.meets_of_undemanding (obeys_settle lenient_undemanding.discards
        (ConnectionId.releaseOutcome_undemanding mode _) o)
    exact .after announced fun _ => released.before fun _ => .pure _
  · exact Engine.meets_of_undemanding (.pure _)

theorem meets_drop (steady : Driver.Steady σ id) {r : DataReader σ}
    (hooks : ∀ l ∈ r.logger?, l.EachHook (KeepsOpen id)) : Engine.Meets id r.drop := by
  refine (meets_dispose steady .blocking hooks).before fun disposed => ?_
  split
  · exact Engine.obeys_trace _ _ _ _
  · exact .pure _

theorem meets_rebind (steady : Driver.Steady σ id) (mode : Mode) {r : DataReader σ}
    (hooks : ∀ l ∈ r.logger?, l.EachHook (KeepsOpen id)) (b : ReaderBinding σ) :
    Engine.Meets id (r.rebind mode b) :=
  (meets_dispose steady mode hooks).before fun _ =>
    (Engine.obeys_warn _ _ _ _).bind fun _ => .pure _

end DataReader

/-- Every call that needs the connection open found it open, and if there is a value, the connection
is open. -/
structure Session.Served (id : ConnectionId) (s : Session σ) (x : Outcome α × Session σ) :
    Prop where
  met : NeedsMet id s x.2
  opened : x.1.isOk = true → x.2.isOpen id

namespace Statement

variable {shape : Shape σ α} {mode : Mode} {r : Request σ} {s : Statement} {start t u v : Session σ}
  {setting : Setting σ} {c : NativeCommand}

theorem isOpen_of_opened (steady : Driver.Steady σ id)
    (hooks : ∀ l ∈ r.logger, l.EachHook (KeepsOpen id))
    (concerned : id = r.connection ∨ start.isOpen id) {opened : Bool}
    (enters : (s.enter shape.method mode r).observe start = (.ok setting, t))
    (prepares : Preparation s mode r setting.info t (.ok c) u)
    (opens : (openFor mode r.connection).observe u = (.ok opened, v)) : v.isOpen id := by
  rcases concerned with rfl | opened'
  · obtain ⟨_, w, _, acquires⟩ := Attempt.ok_of_bind_ok opens
    exact ConnectionId.isOpen_of_acquire steady acquires
  · have entered := s.obeys_enter (R := StaysOpen id) shape.method mode r start
    rw [enters] at entered
    have prepared := prepares.obeys (lenient_staysOpen steady).prepares fun l member =>
      eachHook_staysOpen (hooks l member)
    have taken := obeys_openFor (ConnectionId.acquire_staysOpen steady mode r.connection) u
    rw [opens] at taken
    exact (Law.trans (Law.trans entered prepared) taken opened').1

theorem abandon_undemanding (mode : Mode) (logger : Option (Logger σ)) (info : ExecutionInfo)
    (c : NativeCommand) (e : Error) (opened : Bool) :
    Engine.Obeys (Gains Moment.Undemanding) (abandon mode logger info c e opened) :=
  obeys_abandon (lenient_undemanding.hears _) lenient_undemanding.discards
    (fun l _ => eachHook_undemanding l)
    (fun _ => ConnectionId.releaseOutcome_undemanding mode _) c e

theorem execute_served (steady : Driver.Steady σ id) (faithful : shape.Faithful)
    (hooks : ∀ l ∈ r.logger, l.EachHook (KeepsOpen id))
    (concerned : id = r.connection ∨ start.isOpen id) :
    start.Served id ((s.execute shape mode r).observe start) := by
  have course := s.execute_course shape mode r start
  have entered := s.obeys_enter (R := Gains Moment.Undemanding) shape.method mode r start
  have taken := obeys_openFor (ConnectionId.acquire_undemanding (σ := σ) mode r.connection)
  have prepared : ∀ {info t o u}, Preparation s mode r info t o u → Gains Moment.Undemanding t u :=
    fun h => h.obeys lenient_undemanding.prepares fun l _ => eachHook_undemanding l
  have ran : ∀ {setting t}, (s.enter shape.method mode r).observe start = (.ok setting, t) →
      ∀ c, Attempt.Obeys (StaysOpen id) (run shape mode setting.logger setting.info c) := by
    intro setting t enters c
    have hears := (lenient_staysOpen steady).hears
    refine obeys_run faithful (fun _ => hears _) (fun _ => hears _) (fun l member => ?_)
      (works_staysOpen steady rfl)
    rw [(enter_ok enters).2.1] at member
    exact eachHook_staysOpen (hooks l (Option.mem_filter_iff.1 member).1)
  generalize (s.execute shape mode r).observe start = ends at course ⊢
  obtain ⟨o, last⟩ := ends
  cases course with
  | unentered stops =>
    rw [stops] at entered
    exact ⟨.of_undemanding entered, fun ok => by cases ok⟩
  | unprepared enters stops =>
    rw [enters] at entered
    exact ⟨.of_undemanding (entered.trans (prepared stops)), fun ok => by cases ok⟩
  | @unopened setting c failure t u v enters prepares stops =>
    have tried := taken u
    rw [enters] at entered
    rw [stops] at tried
    have abandoned := abandon_undemanding mode setting.logger setting.info c failure.toError false v
    have before := (entered.trans (prepared prepares)).trans tried
    exact ⟨.of_undemanding (before.trans abandoned), fun ok => by cases ok⟩
  | @unperformed setting c _ failure t u v w enters prepares opens stops =>
    have got := taken u
    have opened := isOpen_of_opened steady hooks concerned enters prepares opens
    have works := ran enters c v opened
    rw [enters] at entered
    rw [opens] at got
    rw [stops] at works
    have abandoned := abandon_undemanding mode setting.logger setting.info c failure.toError true w
    have before : NeedsMet id start v :=
      .of_undemanding ((entered.trans (prepared prepares)).trans got)
    exact ⟨(before.trans works.2).before abandoned, fun ok => by cases ok⟩
  | @performed setting c _ output t u v w enters prepares opens performs =>
    have got := taken u
    have opened := isOpen_of_opened steady hooks concerned enters prepares opens
    have works := ran enters c v opened
    rw [enters] at entered
    rw [opens] at got
    rw [performs] at works
    have before : NeedsMet id start v :=
      .of_undemanding ((entered.trans (prepared prepares)).trans got)
    exact ⟨before.trans works.2, fun _ => works.1⟩

theorem executeOnce_met (steady : Driver.Steady σ id) (faithful : shape.Faithful)
    (hooks : ∀ l ∈ r.logger, l.EachHook (KeepsOpen id))
    (concerned : id = r.connection ∨ start.isOpen id) :
    NeedsMet id start ((s.executeOnce shape mode r).observe start).2 := by
  have served : start.Served id ((s.execute shape mode r).observe start) :=
    execute_served steady faithful hooks concerned
  have finished : ∀ execution : Execution α, Attempt.Obeys (Gains (σ := σ) Moment.Undemanding) (do
      Attempt.ofOutcome (← Attempt.lift (execution.command.cleanUp mode r.connection))
      return execution.output) := by
    intro execution
    have cleaned := NativeCommand.obeys_cleanUp lenient_undemanding.discards
      (ConnectionId.releaseOutcome_undemanding (σ := σ) mode r.connection) execution.command
    exact (Attempt.obeys_lift cleaned).bind fun o =>
      (Attempt.obeys_ofOutcome o).bind fun _ => .pure _
  unfold executeOnce
  rcases executes : (s.execute shape mode r).observe start with ⟨failure | execution, t⟩
  all_goals rw [executes] at served
  · rw [Attempt.observe_bind_error executes]
    exact served.met
  · rw [Attempt.observe_bind_ok executes]
    exact served.met.before (finished execution t)

theorem openCursor_served (steady : Driver.Steady σ id)
    (hooks : ∀ l ∈ r.logger, l.EachHook (KeepsOpen id))
    (concerned : id = r.connection ∨ start.isOpen id) :
    start.Served id ((s.openCursor mode r).observe start) := by
  have delivery := s.openCursor_delivery mode r start
  have served : start.Served id ((s.execute .reader mode r).observe start) :=
    execute_served steady Shape.reader_faithful hooks concerned
  have loads : ∀ (cursor : Cursor) columns, Attempt.Obeys (StaysOpen (σ := σ) id)
      (cursor.load mode columns r.detailedErrors) := fun cursor columns =>
    Cursor.obeys_load (fun _ reads => works_staysOpen steady (NativeCall.needsOpen_of_reads reads))
      (works_staysOpen steady rfl) columns r.detailedErrors
  generalize (s.openCursor mode r).observe start = ends at delivery ⊢
  obtain ⟨o, last⟩ := ends
  cases delivery with
  | unexecuted stops =>
    rw [stops] at served
    exact ⟨served.met, fun ok => by cases ok⟩
  | direct executes undeclared =>
    rw [executes] at served
    exact ⟨served.met, fun _ => served.opened rfl⟩
  | @unloaded cursor c info columns failure t u executes declared stops =>
    rw [executes] at served
    have loaded := loads cursor columns t (served.opened rfl)
    rw [stops] at loaded
    have cleaned := NativeCommand.obeys_cleanUp lenient_undemanding.discards
      (ConnectionId.releaseOutcome_undemanding (σ := σ) mode r.connection) c u
    have warned := Engine.obeys_warn (R := Gains (σ := σ) Moment.Undemanding) Trace.commandTarget
      "Failed to clean up command after a reader error" [Trace.connectionField r.connection]
      (c.cleanUp mode r.connection u).1 (c.cleanUp mode r.connection u).2
    exact ⟨(served.met.trans loaded.2).before (cleaned.trans warned),
      fun ok => by cases ok⟩
  | @loaded cursor c info columns buffer t u executes declared finds =>
    rw [executes] at served
    have loaded := loads cursor columns t (served.opened rfl)
    rw [finds] at loaded
    exact ⟨served.met.trans loaded.2, fun _ => loaded.1⟩

end Statement

namespace Transaction

variable {mode : Mode} {c : ConnectionId} {s : Session σ}

theorem start_served (steady : Driver.Steady σ id) {isolation : IsolationLevel}
    (hooks : ∀ l ∈ (s.connections c).logger, l.EachHook (KeepsOpen id))
    (concerned : id = c ∨ s.isOpen id) :
    s.Served id ((start mode c isolation).observe s) := by
  have beginning := start_beginning mode c isolation s
  have taken := ConnectionId.acquire_undemanding mode c s
  -- With its open taken, the transaction is begun on an open connection.
  have works : ∀ {opened t}, (c.acquire mode).observe s = (.ok opened, t) → t.isOpen id ∧
      StaysOpen id t ((beginNative mode c isolation ⟨t.nextSerial⟩).observe (serialized t)).2 := by
    intro opened t opens
    have kept := ConnectionId.acquire_staysOpen steady mode c s
    have connections := ConnectionId.acquire_ok (congrArg Prod.fst opens)
    rw [opens] at kept connections
    have same : ((serialized t).connections c).logger = (s.connections c).logger := by
      change (t.connections c).logger = _
      rw [connections, logger_taken]
    rw [← same] at hooks
    refine ⟨?_, fun opened' => ?_⟩
    · rcases concerned with rfl | opened'
      · exact ConnectionId.isOpen_of_acquire steady opens
      · exact (kept opened').1
    · exact beginNative_obeys (lenient_staysOpen steady).hears (works_staysOpen steady rfl) _
        (fun l member => eachHook_staysOpen (hooks l member)) opened'
  generalize (start mode c isolation).observe s = ends at beginning ⊢
  obtain ⟨o, last⟩ := ends
  cases beginning with
  | unentered => exact ⟨.of_undemanding (Law.refl _), fun ok => by cases ok⟩
  | unopened stops =>
    rw [stops] at taken
    exact ⟨.of_undemanding taken, fun ok => by cases ok⟩
  | @unbegun _ failure t u opens stops =>
    obtain ⟨opened, stays⟩ := works opens
    rw [opens] at taken
    rw [stops] at stays
    have returned := obeys_releaseAfterFailure (ConnectionId.releaseOutcome_undemanding mode c) u
    have met := (NeedsMet.of_undemanding taken).trans (stays opened).2
    exact ⟨met.before returned, fun ok => by cases ok⟩
  | @begun _ native t u opens begins =>
    obtain ⟨opened, stays⟩ := works opens
    rw [opens] at taken
    rw [begins] at stays
    have lenient := lenient_staysOpen steady
    have wrapped :=
      obeys_wrap lenient.wraps (fun s => lenient.ambient s c) native ⟨t.nextSerial⟩ true
      u (stays opened).1
    have met := (NeedsMet.of_undemanding taken).trans (stays opened).2
    exact ⟨met.trans wrapped.2, fun _ => wrapped.1⟩

theorem adopt_served (steady : Driver.Steady σ id) (native : NativeTransaction)
    (concerned : id = c ∨ s.isOpen id) : s.Served id ((adopt mode c native).observe s) := by
  have undemanding :=
    obeys_adopt lenient_undemanding (ConnectionId.acquire_undemanding mode c) native s
  have kept := obeys_adopt (lenient_staysOpen steady) (ConnectionId.acquire_staysOpen steady mode c)
    native s
  refine ⟨.of_undemanding undemanding, fun ok => ?_⟩
  rcases concerned with rfl | opened
  · rcases ends : (adopt mode id native).observe s with ⟨failure | t, last⟩
    · rw [ends] at ok
      cases ok
    · obtain ⟨_, t₁, _, rest⟩ := Attempt.ok_of_bind_ok ends
      obtain ⟨opened, t₂, acquires, rest⟩ := Attempt.ok_of_bind_ok rest
      have isOpen := ConnectionId.isOpen_of_acquire steady acquires
      have after : Attempt.Obeys (StaysOpen id) (do
          let serial : TransactionId := ⟨← Attempt.lift Engine.mint⟩
          Attempt.trace .debug Trace.transactionTarget "Using external transaction"
            [Trace.connectionField id, Trace.transactionField serial]
          Attempt.lift (wrap id native serial false) : Attempt σ (Transaction σ)) := by
        refine (Attempt.obeys_lift Engine.obeys_mint).bind fun serial => ?_
        refine (Attempt.obeys_trace _ _ _ _).bind fun _ => ?_
        have lenient := lenient_staysOpen steady
        exact Attempt.obeys_lift
          (obeys_wrap lenient.wraps (fun s => lenient.ambient s id) native _ false)
      have wrapped := after t₂ isOpen
      rw [rest] at wrapped
      exact wrapped.1
  · exact (kept opened).1

theorem meets_complete (steady : Driver.Steady σ id) (mode : Mode) (completion : Completion)
    (t : Transaction σ) : Engine.Meets id (t.complete mode completion) := by
  have called : Engine.Obeys (StaysOpen id) (Attempt.call (completion.note t.native mode) mode
      (completion.native t.native)).observe :=
    Attempt.obeys_call (works_staysOpen steady (needsOpen_note completion t.native mode))
      (effect_note completion t.native mode)
  have cleared := obeys_clear (t := { t with state := completion.state }) lenient_undemanding
    (ConnectionId.releaseOutcome_undemanding mode t.connection)
  unfold complete
  split
  · exact Engine.meets_of_undemanding (.pure _)
  · refine .after Engine.obeys_get fun s => ?_
    split
    · exact Engine.meets_of_undemanding (.pure _)
    · refine .after called fun o => Engine.meets_of_undemanding ?_
      rcases o with failure | _
      · cases failure with
        | error e => exact (Engine.obeys_trace _ _ _ _).bind fun _ => .pure _
        | cancelled reason => exact .pure _
        | panicked message => exact .pure _
      · exact (Engine.obeys_trace _ _ _ _).bind fun _ => cleared

theorem meets_dispose (steady : Driver.Steady σ id) (mode : Mode) (t : Transaction σ) :
    Engine.Meets id (t.dispose mode) := by
  have aborts : Engine.Obeys (StaysOpen id) (t.abort mode) :=
    obeys_abort fun _ => works_staysOpen steady rfl
  have cleared := obeys_clear (t := { t with state := .disposed }) lenient_undemanding
    (ConnectionId.releaseOutcome_undemanding mode t.connection)
  unfold dispose
  split
  · exact Engine.meets_of_undemanding (.pure _)
  · exact .after aborts fun rolledBack =>
      Engine.meets_of_undemanding (cleared.bind fun _ => .pure _)

theorem meets_drop (steady : Driver.Steady σ id) (t : Transaction σ) : Engine.Meets id t.drop := by
  unfold drop
  split
  · exact Engine.meets_of_undemanding (.pure _)
  · refine (meets_dispose steady .blocking t).before fun disposed => ?_
    split
    · exact Engine.obeys_trace _ _ _ _
    · exact .pure _

end Transaction

end SqlExecution
