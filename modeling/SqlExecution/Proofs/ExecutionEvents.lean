import SqlExecution.Proofs.EventIdentity

/-! What an execution tells. Where a logger raises anything of it, its identifier is minted and an
event that carries it is noted; where none does, neither happens. -/

namespace SqlExecution

variable {σ α β : Type}

open Session Trace Tandem

namespace Session

/-- Nothing is told since, or the identifier behind the ticket is minted and an event was noted. -/
def Voiced (ticket : Ticket) (s t : Session σ) : Prop := s.Silent t ∨ s.Named ticket t

theorem Voiced.mute {ticket : Ticket} {s t : Session σ} {m : Engine σ α}
    (voiced : s.Voiced ticket t) (mute : m.Mute) : s.Voiced ticket (m t).2 :=
  voiced.imp mute.speaks mute.named

end Session

/-- Every form in which an event is raised under a limit would be noted. -/
def Logger.Audible (l : Logger σ) (level : TraceLevel) (limit : Option TraceLevel) : Prop :=
  level.isKept limit = true ∨ l.commandInterceptors ≠ []

namespace Logger

variable {l : Logger σ} {limit : Option TraceLevel}

theorem audible_of_raisesCreate (raises : l.raisesCreate limit = true) :
    l.Audible .debug limit := by
  simp only [raisesCreate, Bool.and_eq_true, Bool.or_eq_true, Bool.not_eq_true',
    List.isEmpty_eq_false_iff] at raises
  exact raises.2.symm

theorem audible_of_raisesExecute (raises : l.raisesExecute limit = true) :
    l.Audible .info limit := by
  simp only [raisesExecute, Bool.and_eq_true, Bool.or_eq_true, Bool.not_eq_true',
    List.isEmpty_eq_false_iff] at raises
  exact raises.2.symm

theorem Audible.error {level : TraceLevel} (audible : l.Audible level limit) :
    l.Audible .error limit := by
  refine audible.imp (fun kept => ?_) id
  cases limit with
  | none => cases kept
  | some limit => simp [TraceLevel.isKept, TraceLevel.rank]

variable {ticket : Ticket} {s u : Session σ} (onward : s.Onward u)
  (minted : (u.commandIds ticket).isSome)
include onward minted

theorem named_delivery (i : CommandInterceptor σ) (hook : Hook) (mode : Mode) (event : CommandEvent)
    (c : Option NativeCommand) (input : HookInput) :
    s.Named ticket (delivery i hook mode event c input u).2 :=
  ⟨onward.trans (onward_noted _ u), minted, heard_noted (fun plain => plain _ _ rfl) onward⟩

theorem named_trace {level : TraceLevel} (kept : level.isKept u.traceLimit = true)
    (target message : String) (event : CommandEvent) (rest : List (String × TraceValue)) :
    s.Named ticket (Engine.trace level target message (commandFields event ++ rest) u).2 := by
  rw [Engine.trace_snd, if_pos kept]
  refine ⟨onward.trans (onward_noted _ u), minted, heard_noted (fun plain => ?_) onward⟩
  cases plain

omit onward minted in
theorem runs_hooks (ticket : Ticket) (s : Session σ) (is : List (CommandInterceptor σ))
    (hook : Hook) (mode : Mode) (event : CommandEvent) (c : NativeCommand) (input : HookInput)
    (acts : CommandInterceptor σ → Act σ Unit) :
    (loud ticket s).Runs Eq
      (is.forM fun i => do
        delivery i hook mode event (some c) input
        Engine.act (acts i))
      (is.forM fun i => do
        delivery i hook mode event (some c) input
        Engine.act (acts i)) := by
  have watches := loud_watches ticket s
  exact runs_forM fun i _ =>
    (runs_delivery watches trivial i hook mode (some c) (some c) input input).andThen fun _ =>
      runs_act watches (Act.alike_self (fun _ => rfl) (acts i))

theorem named_commandFailed (audible : l.Audible .error u.traceLimit) (mode : Mode)
    (c : NativeCommand) (event : CommandEvent) (e : Error) :
    s.Named ticket (l.commandFailed mode c event e u).2 := by
  have told := fun is => runs_hooks ticket s is .commandFailed mode event c
    (.given (.error e)) fun i => i.failed mode c event e
  unfold commandFailed
  rw [Engine.bind_apply]
  by_cases kept : TraceLevel.error.isKept u.traceLimit = true
  · have traced := named_trace onward minted kept commandTarget
      ("Failed executing DbCommand " ++ elapsed ++ " [" ++ l.describe c ++ "]\n" ++ c.text) event
      [methodField event, errorField e]
    exact ((told l.commandInterceptors).alone traced).2
  · rw [Engine.trace_snd, if_neg kept]
    -- Without a trace record the first interceptor is told before anything else.
    cases is : l.commandInterceptors with
    | nil => exact absurd is (audible.resolve_left kept)
    | cons i rest =>
      have first := named_delivery onward minted i .commandFailed mode event (some c)
        (.given (.error e))
      have acted := runs_act (loud_watches ticket s)
        (Act.alike_self (fun _ => rfl) (i.failed mode c event e))
      exact ((acted.andThen fun _ => told rest).alone first).2

section Folding

variable {mode : Mode} {stops : Bool} {deliver : CommandInterceptor σ → α → Engine σ Unit}
  {hook : CommandInterceptor σ → α → Dual σ α}
  (notes : CommandInterceptor σ → α → Scene σ → Delivery) {event : CommandEvent}
  (delivers : ∀ i a v, deliver i a v = ((), v.noted (.hook (notes i a v.scene))))
  (spoken : ∀ i a scene, ∃ c, (notes i a scene).subject = .command event c)
include delivers spoken

omit onward minted in
theorem tries_hooks (is : List (CommandInterceptor σ)) (a : α) :
    (loud ticket s).Tries Eq (Attempt.foldHooks mode stops deliver hook is a)
      (Attempt.foldHooks mode stops deliver hook is a) := by
  refine tries_foldHooks (V := Eq) (loud_watches ticket s) (fun i a a' same v v' meets => ?_)
    (fun i _ a a' same => ?_) rfl
  · cases same
    have there : v'.scene = v.scene := meets.scenes.symm
    rw [delivers, delivers, there]
    obtain ⟨c, subject⟩ := spoken i a v.scene
    exact ⟨rfl, meets.noted (loud_watches ticket s) rfl nofun (allows_delivery trivial subject)⟩
  · cases same
    exact Act.alike_self (sameEnd_refl fun _ => rfl) _

theorem named_foldHooks (i : CommandInterceptor σ) (rest : List (CommandInterceptor σ)) (a : α)
    (passes : stops = true → ∃ b,
      ((Attempt.foldHooks mode stops deliver hook (i :: rest) a).observe u).1 = .ok b) :
    s.Named ticket ((Attempt.foldHooks mode stops deliver hook (i :: rest) a).observe u).2 := by
  have first : ∀ scene, s.Named ticket { u.noted (.hook (notes i a u.scene)) with scene } := by
    intro scene
    obtain ⟨c, subject⟩ := spoken i a u.scene
    have heard := heard_noted (e := .hook (notes i a u.scene)) (fun plain => plain _ _ subject)
      onward
    have named : s.Named ticket (u.noted (.hook (notes i a u.scene))) :=
      ⟨onward.trans (onward_noted _ u), minted, heard⟩
    exact named.onward (onward_of_journal_eq rfl (Nat.le_refl _)) id
  let entries : CommandInterceptor σ → α → Scene σ → Entry := fun i a scene =>
    .hook (notes i a scene)
  have called : ∀ i a v, deliver i a v = ((), v.noted (entries i a v.scene)) := delivers
  rw [Attempt.foldHooks_cons_apply called] at passes ⊢
  cases stop : (Round.ofDual mode stops entries hook).stops u.scene with
  | error failure =>
    rw [stop] at passes
    cases stops with
    | false => cases stop
    | true =>
      obtain ⟨b, ends⟩ := passes rfl
      cases ends
  | ok _ =>
    dsimp only
    rcases (hook i a).perform mode u.scene with ⟨failure | b, scene⟩
    · exact first scene
    · exact ((tries_hooks notes delivers spoken rest b).alone (first scene)).2

end Folding

theorem named_commandCreating (audible : l.Audible .debug u.traceLimit) (event : CommandEvent) :
    s.Named ticket ((l.commandCreating event).observe u).2 := by
  let notes : CommandInterceptor σ → Interception NativeCommand → Scene σ → Delivery := fun i r _ =>
    ⟨i.name, i.coverage, .commandCreating, .blocking, .command event none,
      .offered (r.map .command)⟩
  unfold commandCreating
  rw [Attempt.trace, Attempt.observe_lift_bind]
  by_cases kept : TraceLevel.debug.isKept u.traceLimit = true
  · have traced := named_trace onward minted kept commandTarget
      ("Creating DbCommand for '" ++ event.method.verb ++ "'") event [methodField event]
    exact ((tries_hooks notes (fun _ _ _ => rfl) (fun _ _ _ => ⟨none, rfl⟩) l.commandInterceptors
      .noResult).alone traced).2
  · rw [Engine.trace_snd, if_neg kept]
    cases is : l.commandInterceptors with
    | nil => exact absurd is (audible.resolve_left kept)
    | cons i rest =>
      exact named_foldHooks onward minted notes (fun _ _ _ => rfl) (fun _ _ _ => ⟨none, rfl⟩) i rest
        .noResult (fun stops => by cases stops)

theorem named_executed {shape : Shape σ α} (plain : shape.Plain) {mode : Mode} {c : NativeCommand}
    {event : CommandEvent} {result : α} (audible : l.Audible .info u.traceLimit)
    (ends : ∃ a,
      ((l.executed mode shape.around shape.payload c event result).observe u).1 = .ok a) :
    s.Named ticket ((l.executed mode shape.around shape.payload c event result).observe u).2 := by
  let notes : CommandInterceptor σ → α → Scene σ → Delivery := fun i a scene =>
    ⟨i.name, i.coverage, .executed event.method, mode, .command event (some c),
      .given (shape.shown a scene)⟩
  have delivers : ∀ (i : CommandInterceptor σ) (a : α) (v : Session σ),
      (do delivery i (.executed event.method) mode event (some c) (.given (← shape.payload a))) v =
        ((), v.noted (.hook (notes i a v.scene))) := fun i a v => by
    rw [Engine.bind_apply, plain a v]
    rfl
  unfold executed at ends ⊢
  rw [Attempt.trace, Attempt.observe_lift_bind] at ends ⊢
  by_cases kept : TraceLevel.info.isKept u.traceLimit = true
  · have traced := named_trace onward minted kept commandTarget
      ("Executed DbCommand " ++ elapsed ++ " [" ++ l.describe c ++ "]\n" ++ c.text) event
      [methodField event, sourceField event]
    exact ((tries_hooks notes delivers (fun _ _ _ => ⟨some c, rfl⟩) l.commandInterceptors
      result).alone traced).2
  · rw [Engine.trace_snd, if_neg kept] at ends ⊢
    cases is : l.commandInterceptors with
    | nil => exact absurd is (audible.resolve_left kept)
    | cons i rest =>
      rw [is] at ends
      exact named_foldHooks onward minted notes delivers (fun _ _ _ => ⟨some c, rfl⟩) i rest result
        fun _ => ends

end Logger

namespace Statement

variable [Driver σ]

theorem mute_openFor (mode : Mode) (id : ConnectionId) :
    (openFor mode id : Attempt σ Bool).observe.Mute :=
  .of_tries fun _ watches scenes commands =>
    tries_openFor watches (answers_of_eq scenes commands) mode id

theorem mute_discharge (mode : Mode) (info : ExecutionInfo) (c : NativeCommand) (opened : Bool) :
    (discharge mode info c opened : Engine σ Unit).Mute :=
  .of_runs fun _ watches scenes commands =>
    runs_discharge watches (answers_of_eq scenes commands) (by rw [commands]) mode info opened

theorem mute_run {shape : Shape σ α} (shapes : ∀ t : Tandem σ, t.Answers → t.Shapes shape)
    (mode : Mode) (info : ExecutionInfo) (c : NativeCommand) :
    (run shape mode none info c).observe.Mute :=
  .of_tries fun t watches scenes commands =>
    tries_run watches (shapes t (answers_of_eq scenes commands)) (by simp) (by simp)
      (by rw [commands]) mode

theorem mute_cleanUp (mode : Mode) (id : ConnectionId) (c : NativeCommand) :
    (c.cleanUp mode id : Engine σ (Outcome Unit)).Mute :=
  .of_runs fun _ watches scenes commands =>
    runs_cleanUp watches (answers_of_eq scenes commands) (by rw [commands]) mode id

theorem mute_load (mode : Mode) (columns : List ReaderColumn) (detailed : Bool) (c : Cursor) :
    (c.load mode columns detailed : Attempt σ BufferedReader).observe.Mute :=
  .of_tries fun _ watches scenes commands =>
    tries_load watches (answers_of_eq scenes commands) c mode columns detailed

section Stages

variable {info : ExecutionInfo} {s u : Session σ}

omit [Driver σ] in
theorem minted_identified (info : ExecutionInfo) (u : Session σ) :
    ((u.identified info.ticket).commandIds info.ticket).isSome := by simp

variable (steady : s.Steady u)
include steady

omit [Driver σ] in
theorem named_reportFailure {l : Logger σ} (audible : l.Audible .error s.traceLimit) (mode : Mode)
    (c : NativeCommand) (e : Error) :
    s.Named info.ticket (reportFailure mode (some l) info c e u).2 := by
  change s.Named info.ticket ((info.event >>= fun event => l.commandFailed mode c event e) u).2
  rw [Engine.bind_apply, info.event_eq]
  refine l.named_commandFailed (steady.toOnward.trans (onward_identified _ u))
    (minted_identified info u) ?_ mode c _ e
  rw [identified_eq]
  rwa [← steady.traceLimit] at audible

theorem named_obtain {l : Logger σ} (audible : l.Audible .debug s.traceLimit) :
    s.Named info.ticket ((obtain info (some l)).observe u).2 := by
  have limit : (u.identified info.ticket).traceLimit = s.traceLimit := by
    rw [identified_eq]
    exact steady.traceLimit
  have created := l.named_commandCreating (steady.toOnward.trans (onward_identified _ u))
    (minted_identified info u) (by rwa [limit]) (info.eventAs (u.idFor info.ticket))
  unfold obtain
  rw [Attempt.observe_lift_bind, info.event_eq, Attempt.observe_bind_apply]
  -- Once the creating event is told, what follows is only known to go on.
  rcases offers : (l.commandCreating (info.eventAs (u.idFor info.ticket))).observe
    (u.identified info.ticket) with ⟨failure | offered, v⟩
  · rw [offers] at created
    exact created
  · rw [offers] at created
    have watches := loud_watches info.ticket s
    have later : ∀ c : NativeCommand, (loud info.ticket s).Tries (fun _ _ => True)
        (Attempt.lift (l.commandCreated (info.eventAs (u.idFor info.ticket)) c))
        (Attempt.lift (l.commandCreated (info.eventAs (u.idFor info.ticket)) c)) := fun c =>
      .lift ((runs_commandCreated watches trivial (suits_of_eq rfl rfl l) rfl).mono
        fun _ _ _ => trivial)
    cases offered with
    | hasResult c => exact ((later c).alone created).2
    | noResult =>
      have made : (loud info.ticket s).Tries Eq (create info) (create info) :=
        tries_create watches (answers_of_eq rfl rfl)
      exact ((made.andThen later).alone created).2

theorem voiced_abandon (voiced : s.Voiced info.ticket u) {logger : Option (Logger σ)}
    (audible : ∀ l ∈ logger, l.Audible .error s.traceLimit) (mode : Mode) (c : NativeCommand)
    (e : Error) (opened : Bool) :
    s.Voiced info.ticket (abandon mode logger info c e opened u).2 := by
  rw [abandon_eq, Engine.bind_apply]
  refine Voiced.mute ?_ (mute_discharge mode info c opened)
  cases logger with
  | none => exact voiced
  | some l => exact .inr (named_reportFailure steady (audible l rfl) mode c e)

theorem voiced_yielded (voiced : s.Voiced info.ticket u) (r : Request σ) :
    s.Voiced info.ticket ((yielded r info).observe u).2 := by
  unfold yielded
  rw [Attempt.observe_get_bind, steady.traceLimit]
  cases raised : r.logger.filter (·.raisesCreate s.traceLimit) with
  | none =>
    exact voiced.mute (.of_tries fun _ watches scenes commands =>
      tries_obtain watches (answers_of_eq scenes commands) (by simp) (by simp))
  | some l =>
    obtain ⟨_, raises⟩ := Option.mem_filter_iff.1 raised
    exact .inr (named_obtain steady (Logger.audible_of_raisesCreate raises))

theorem steady_yielded (info : ExecutionInfo) (r : Request σ) :
    s.Steady ((yielded r info).observe u).2 := by
  have tries : (alone s.Steady (fun _ => True) (fun _ => True)).Tries (fun _ _ => True)
      (yielded r info) (yielded r info) := .get fun v v' meets => by
    rw [meets.traceLimit]
    have obtains : Tandem.Tries _ _ (obtain info (r.logger.filter (·.raisesCreate v.traceLimit)))
        (obtain info (r.logger.filter (·.raisesCreate v.traceLimit))) :=
      tries_obtain (steady_watches s) (answers_of_eq rfl rfl) (fun _ _ => trivial)
        fun l _ => suits_of_eq rfl rfl l
    exact obtains.mono fun _ _ _ => trivial
  exact (tries.alone steady).2

theorem voiced_prepare (voiced : s.Voiced info.ticket u) {st : Statement} {mode : Mode}
    {r : Request σ} {o : Outcome NativeCommand} {t : Session σ}
    (preparation : Preparation st mode r info u o t) :
    s.Voiced info.ticket t ∧ (∀ c, o = .ok c → s.Steady t) := by
  have yielding := voiced_yielded steady voiced r
  have steadied := steady_yielded steady info r
  cases preparation with
  | uncreated stops =>
    rw [stops] at yielding
    exact ⟨yielding, nofun⟩
  | unequipped yields fails =>
    rw [yields] at yielding steadied
    refine ⟨voiced_abandon steadied yielding (fun l reports => ?_) mode _ _ false, nofun⟩
    obtain ⟨_, raises⟩ := Option.mem_filter_iff.1 reports
    rw [steady.traceLimit, Bool.or_eq_true] at raises
    exact raises.elim (fun raises => (Logger.audible_of_raisesCreate raises).error)
      fun raises => (Logger.audible_of_raisesExecute raises).error
  | equipped yields _ =>
    rw [yields] at yielding steadied
    exact ⟨yielding, fun _ _ => steadied⟩

variable {shape : Shape σ α} (shapes : ∀ t : Tandem σ, t.Answers → t.Shapes shape)
include shapes

theorem steady_run (mode : Mode) (info : ExecutionInfo) (logger : Option (Logger σ))
    (c : NativeCommand) :
    s.Steady ((run shape mode logger info c).observe u).2 :=
  ((tries_run (steady_watches s) (shapes _ (answers_of_eq rfl rfl)) (fun _ _ => trivial)
    (fun l _ => suits_of_eq rfl rfl l) rfl mode).alone steady).2

theorem named_run (plain : shape.Plain) {l : Logger σ} (audible : l.Audible .info s.traceLimit)
    {mode : Mode} {c : NativeCommand} {a : α} {t : Session σ}
    (ends : (run shape mode (some l) info c).observe u = (.ok a, t)) : s.Named info.ticket t := by
  have watches := begun_watches info.ticket s
  have shapes := shapes (alone (s.Begun info.ticket) (fun _ => True) (fun _ => True))
    (answers_of_eq rfl rfl)
  have suits := suits_of_eq (t := alone (s.Begun info.ticket) (fun _ => True) (fun _ => True))
    rfl rfl l
  have hooks : ∀ i ∈ l.commandInterceptors, Tandem.SuitsAround _ (shape.around i) :=
    fun i member => shapes.around (suits.hooks i member)
  let event := info.eventAs (u.idFor info.ticket)
  -- Whatever the result is, the executed event is raised of it.
  have told : ∀ {result : α} {w : Session σ}, s.Begun info.ticket w →
      (l.executed mode shape.around shape.payload c event result).observe w = (.ok a, t) →
      s.Named info.ticket t := fun {result w} begun ends => by
    have named := l.named_executed begun.toOnward begun.minted plain (by rwa [begun.traceLimit])
      ⟨a, congrArg Prod.fst ends⟩
    rwa [ends] at named
  unfold run at ends
  obtain ⟨_, u', checks, ends⟩ := Attempt.ok_of_bind_ok ends
  have same : u' = u := (congrArg Prod.snd checks).symm
  cases same
  dsimp only at ends
  rw [Attempt.observe_lift_bind, info.event_eq] at ends
  have begun : s.Begun info.ticket (u.identified info.ticket) :=
    ⟨steady.trans (steady_identified _ u), minted_identified info u⟩
  obtain ⟨offered, v, asks, ends⟩ := Attempt.ok_of_bind_ok ends
  have asking : (alone (s.Begun info.ticket) (fun _ => True) (fun _ => True)).Tries Eq
      (l.executing mode shape.around shape.payload c event)
      (l.executing mode shape.around shape.payload c event) :=
    tries_executing watches trivial suits rfl shapes.quiet hooks
  have asked := (asking.alone begun).2
  dsimp only at asks
  rw [asks] at asked
  cases offered with
  | hasResult result => exact told asked ends
  | noResult =>
    obtain ⟨_, v', checks, ends⟩ := Attempt.ok_of_bind_ok ends
    have same : v' = v := (congrArg Prod.snd checks).symm
    cases same
    obtain ⟨result, w, gets, ends⟩ := Attempt.ok_of_bind_ok ends
    have calling : (alone (s.Begun info.ticket) (fun _ => True) (fun _ => True)).Tries Eq
        (Attempt.call (.execute shape.method c mode) mode (shape.native c))
        (Attempt.call (.execute shape.method c mode) mode (shape.native c)) :=
      tries_callSame watches (shapes.native rfl mode)
    have got := (calling.alone asked).2
    rw [gets] at got
    exact told got ends

end Stages

/-- The execution that is begun, unless the values are no good or the context is cancelled. -/
def begins (s : Statement) (method : Method) (mode : Mode) (r : Request σ) (start : Session σ) :
    Option ExecutionInfo :=
  match (s.enter method mode r).observe start with
  | (.ok setting, _) => some setting.info
  | (.error _, _) => none

omit [Driver σ] in
theorem enter_error {s : Statement} {method : Method} {mode : Mode} {r : Request σ}
    {start t : Session σ} {failure : Failure}
    (stops : (s.enter method mode r).observe start = (.error failure, t)) : t = start := by
  rw [enter_apply] at stops
  split at stops
  · cases stops
    rfl
  · split at stops <;> cases stops
    rfl

section Courses

variable {shape : Shape σ α} (shapes : ∀ t : Tandem σ, t.Answers → t.Shapes shape)
  (plain : shape.Plain) {s : Statement} {mode : Mode} {r : Request σ} {start t : Session σ}
include shapes plain

theorem Course.voiced {o : Outcome (Execution α)} (course : Course shape s mode r start o t) :
    start.Voiced start.nextTicket t := by
  have entered : ∀ {setting : Setting σ} {u : Session σ},
      (s.enter shape.method mode r).observe start = (.ok setting, u) →
      setting.info.ticket = start.nextTicket ∧ start.Steady u ∧ start.Voiced start.nextTicket u ∧
        ∀ l ∈ setting.logger, l.Audible .info start.traceLimit := fun enters => by
    obtain ⟨info, logger, rfl⟩ := enter_ok enters
    refine ⟨by rw [info]; rfl, steady_of_journal_eq rfl (Nat.le_succ _) rfl,
      .inl (speaks_of_journal_eq rfl (Nat.le_succ _) rfl rfl), fun l raised => ?_⟩
    rw [logger] at raised
    exact Logger.audible_of_raisesExecute (Option.mem_filter_iff.1 raised).2
  have opened : ∀ {info : ExecutionInfo} {u v w : Session σ} {c : NativeCommand}
      {o : Outcome Bool}, start.Voiced info.ticket u → start.Steady u →
      Preparation s mode r info u (.ok c) v → (openFor mode r.connection).observe v = (o, w) →
      start.Voiced info.ticket w ∧ start.Steady w := fun voiced steady prepares opens => by
    obtain ⟨voiced, steady⟩ := voiced_prepare steady voiced prepares
    have opening := mute_openFor (σ := σ) mode r.connection
    have steady := opening.steady (steady _ rfl)
    have voiced := voiced.mute opening
    rw [opens] at steady voiced
    exact ⟨voiced, steady⟩
  cases course with
  | unentered stops =>
    cases enter_error stops
    exact .inl (.refl _)
  | unprepared enters stops =>
    obtain ⟨ticket, steady, voiced, _⟩ := entered enters
    rw [← ticket] at voiced ⊢
    exact (voiced_prepare steady voiced stops).1
  | unopened enters prepares stops =>
    obtain ⟨ticket, steady, voiced, audible⟩ := entered enters
    rw [← ticket] at voiced ⊢
    obtain ⟨voiced, steady⟩ := opened voiced steady prepares stops
    exact voiced_abandon steady voiced (fun l raised => (audible l raised).error) mode _ _ false
  | @unperformed setting c _ _ _ _ _ _ enters prepares opens stops =>
    obtain ⟨ticket, steady, voiced, audible⟩ := entered enters
    rw [← ticket] at voiced ⊢
    obtain ⟨voiced, steady⟩ := opened voiced steady prepares opens
    cases logger : setting.logger with
    | none =>
      have ran := mute_run shapes mode setting.info c
      rw [logger] at stops
      have steady := ran.steady steady
      have voiced := voiced.mute ran
      rw [stops] at steady voiced
      exact voiced_abandon steady voiced (by simp) mode _ _ true
    | some l =>
      -- Wherever the run stopped, the failure is still reported, so it is heard in any case.
      have steady := steady_run steady shapes mode setting.info setting.logger c
      rw [stops] at steady
      rw [abandon_eq, Engine.bind_apply]
      exact .inr ((mute_discharge mode _ _ true).named
        (named_reportFailure steady (audible l logger).error mode _ _))
  | @performed setting c _ _ _ _ _ _ enters prepares opens performs =>
    obtain ⟨ticket, steady, voiced, audible⟩ := entered enters
    rw [← ticket] at voiced ⊢
    obtain ⟨voiced, steady⟩ := opened voiced steady prepares opens
    cases logger : setting.logger with
    | none =>
      have voiced := voiced.mute (mute_run shapes mode setting.info c)
      rw [logger] at performs
      rwa [performs] at voiced
    | some l =>
      rw [logger] at performs
      exact .inr (named_run steady shapes plain (audible l logger) performs)

end Courses

end Statement

end SqlExecution
