import SqlExecution.Proofs.FirstFailure
import SqlExecution.Proofs.ParameterTrees

/-! Values that are missing. They are looked for before anything else is done, and what is found
there is found again when the parameters are bound: past that check the engine misses no value by
itself, and whoever hears of a missing value then hears it from the driver or from a hook. -/

namespace SqlExecution

variable {σ α β ι : Type}

open Session

namespace Failure

/-- A value for a parameter is missing. -/
def isMissing : Failure → Bool
  | .error (.parameter .missing _ _) => true
  | _ => false

end Failure

namespace Outcome

def failure? : Outcome α → Option Failure
  | .ok _ => none
  | .error failure => some failure

theorem error_of_ofResult {r : Result α} {failure : Failure} (ends : ofResult r = .error failure) :
    ∃ e, r = .error e ∧ failure = .error e := by
  cases r <;> cases ends
  exact ⟨_, rfl, rfl⟩

end Outcome

namespace Payload

def command? : Payload → Option NativeCommand
  | command c => some c
  | _ => none

def rows? : Payload → Option Int64
  | rows n => some n
  | _ => none

def scalar? : Payload → Option (Option Value)
  | scalar v => some v
  | _ => none

def cursor? : Payload → Option Cursor
  | cursor c _ => some c
  | _ => none

end Payload

/-- How a hook around an execution fails at what it is delivered, if it does. -/
def Around.failure? (a : Around σ α) (held : Payload → Option α) (c : NativeCommand)
    (event : CommandEvent) (d : Delivery) (x : Scene σ) : Option Failure :=
  match d.hook, d.input with
  | .executing _, .offered r =>
    (r.mapM held).bind fun offered => ((a.executing c event offered).perform d.mode x).1.failure?
  | .executed _, .given p =>
    (held p).bind fun result => ((a.executed c event result).perform d.mode x).1.failure?
  | _, _ => none

namespace CommandInterceptor

def aroundFailure? (i : CommandInterceptor σ) :
    Method → NativeCommand → CommandEvent → Delivery → Scene σ → Option Failure
  | .nonQuery => i.nonQuery.failure? Payload.rows?
  | .scalar => i.scalar.failure? Payload.scalar?
  | .reader => i.reader.failure? Payload.cursor?

/-- How a hook on the way to a result fails at what it is delivered, if it does. -/
def failure? (i : CommandInterceptor σ) (d : Delivery) (x : Scene σ) : Option Failure :=
  match d.hook, d.subject, d.input with
  | .commandCreating, .command event none, .offered r =>
    (r.mapM Payload.command?).bind fun offered =>
      (Outcome.ofResult (i.creating event offered x).1).failure?
  | .commandCreated, .command event (some c), _ =>
    (Outcome.ofResult (i.created event c x).1.2).failure?
  | .executing method, .command event (some c), _ => i.aroundFailure? method c event d x
  | .executed method, .command event (some c), _ => i.aroundFailure? method c event d x
  | _, _, _ => none

end CommandInterceptor

theorem Interception.mapM_command? (r : Interception NativeCommand) :
    (r.map Payload.command).mapM Payload.command? = some r := by cases r <;> rfl

section Driven

variable [Driver σ]

/-- How a call fails in this scene, if it does. -/
def NativeCall.failure? (x : Scene σ) : NativeCall → Option Failure
  | openConnection id mode => ((Driver.openConnection id).perform mode x).1.failure?
  | closeConnection id mode => ((Driver.closeConnection id).perform mode x).1.failure?
  | createCommand id => (Outcome.ofResult (Driver.createCommand id x).1).failure?
  | begin id mode isolation => ((Driver.begin id isolation).perform mode x).1.failure?
  | commit t mode => ((Driver.commit t).perform mode x).1.failure?
  | rollback t mode => ((Driver.rollback t).perform mode x).1.failure?
  | execute .nonQuery c mode => ((Driver.executeNonQuery c).perform mode x).1.failure?
  | execute .scalar c mode => ((Driver.executeScalar c).perform mode x).1.failure?
  | execute .reader c mode => ((Driver.executeReader c).perform mode x).1.failure?
  | clearParameters _ => none
  | dispose c mode => ((Driver.dispose c).perform mode x).1.failure?
  | columnName c ordinal => (Outcome.ofResult (Driver.columnName c ordinal x).1).failure?
  | read c mode => ((Driver.read c).perform mode x).1.failure?
  | nextResult c mode => ((Driver.nextResult c).perform mode x).1.failure?
  | getValue c ordinal => (Outcome.ofResult (Driver.getValue c ordinal x).1).failure?
  | closeCursor c mode => ((Driver.closeCursor c).perform mode x).1.failure?

/-- The call that was made then failed like this, or the hook of the interceptor that was told. -/
def Moment.Reports (logger : Option (Logger σ)) (failure : Failure) (m : Moment σ) : Prop :=
  match m.entry with
  | .native call => call.failure? m.scene = some failure
  | .hook d => ∃ l ∈ logger, ∃ i ∈ l.commandInterceptors, i.name = d.interceptor ∧
      i.failure? d m.scene = some failure
  | _ => False

namespace Session

/-- The journal only grew. -/
def Grows (s t : Session σ) : Prop := ∃ made, t.journal = s.journal ++ made

omit [Driver σ] in
theorem grows_of_journal_eq {s t : Session σ} (same : t.journal = s.journal) : Grows s t :=
  ⟨[], by rw [same, List.append_nil]⟩

omit [Driver σ] in
theorem grows_noted (e : Entry) (s : Session σ) : Grows s (s.noted e) := ⟨_, rfl⟩

omit [Driver σ] in
theorem Grows.trans {s t u : Session σ} : Grows s t → Grows t u → Grows s u := by
  rintro ⟨made, journal⟩ ⟨more, journal'⟩
  exact ⟨made ++ more, by rw [journal', journal, List.append_assoc]⟩

instance : Law (Grows : Session σ → Session σ → Prop) where
  trans := Grows.trans
  unseen journal _ _ _ := grows_of_journal_eq journal
  traced _ := grows_noted _

theorem allows_grows (call : NativeCall) : Allows (Grows (σ := σ)) call :=
  ⟨grows_noted _, fun _ => grows_of_journal_eq rfl⟩

omit [Driver σ] in
theorem eachHook_grows (l : Logger σ) : l.EachHook (Lets (Grows (σ := σ))) :=
  l.eachHook_of_forall fun _ _ => grows_of_journal_eq rfl

theorem serves_grows : Serves (Grows (σ := σ)) where
  hears _ _ _ := grows_noted _
  upkeep _ := allows_grows _
  works _ := allows_grows _
  takes _ _ := ConnectionId.obeys_acquire (allows_grows _) fun _ _ => grows_of_journal_eq rfl
  gives _ _ := ConnectionId.obeys_releaseOutcome (allows_grows _) fun _ => grows_of_journal_eq rfl

/-- From one moment to the other, the failure was reported. -/
def Surfaced (logger : Option (Logger σ)) (failure : Failure) (s t : Session σ) : Prop :=
  ∃ made, t.journal = s.journal ++ made ∧ ∃ m ∈ made, m.Reports logger failure

variable {logger : Option (Logger σ)} {failure : Failure} {s t u : Session σ}

theorem Surfaced.before (reported : Surfaced logger failure s t) (grows : Grows t u) :
    Surfaced logger failure s u := by
  obtain ⟨made, journal, m, member, reports⟩ := reported
  obtain ⟨more, journal'⟩ := grows
  refine ⟨made ++ more, ?_, m, List.mem_append_left _ member, reports⟩
  rw [journal', journal, List.append_assoc]

theorem Surfaced.after (grows : Grows s t) (reported : Surfaced logger failure t u) :
    Surfaced logger failure s u := by
  obtain ⟨made, journal⟩ := grows
  obtain ⟨more, journal', m, member, reports⟩ := reported
  refine ⟨made ++ more, ?_, m, List.mem_append_right _ member, reports⟩
  rw [journal', journal, List.append_assoc]

theorem surfaced_noted {e : Entry} (journal : t.journal = (s.noted e).journal)
    (reports : Moment.Reports logger failure ⟨s.scene, e⟩) : Surfaced logger failure s t :=
  ⟨_, journal, _, List.mem_singleton_self _, reports⟩

end Session

namespace Attempt

/-- Where it fails because a value is missing, that was known before, or else it was reported in the
meantime. -/
structure Blameless (logger : Option (Logger σ)) (known : Failure → Prop) (m : Attempt σ α) :
    Prop where
  grows : Obeys Grows m
  reported (s : Session σ) (failure : Failure) (ends : (m.observe s).1 = .error failure)
    (missing : failure.isMissing = true) :
    known failure ∨ Surfaced logger failure s (m.observe s).2

variable {logger : Option (Logger σ)} {known : Failure → Prop}

theorem blameless_of_ok {m : Attempt σ α} (grows : Obeys Grows m)
    (succeeds : ∀ s, ∃ a, (m.observe s).1 = .ok a) : Blameless logger known m := by
  refine ⟨grows, fun s failure ends _ => ?_⟩
  obtain ⟨a, ok⟩ := succeeds s
  rw [ok] at ends
  cases ends

theorem blameless_pure (a : α) : Blameless logger known (pure a : Attempt σ α) :=
  blameless_of_ok (.pure a) fun _ => ⟨a, rfl⟩

theorem blameless_lift {m : Engine σ α} (grows : Engine.Obeys Grows m) :
    Blameless logger known (lift m) := blameless_of_ok (obeys_lift grows) fun _ => ⟨_, rfl⟩

theorem blameless_get : Blameless logger known (get : Attempt σ (Session σ)) :=
  blameless_of_ok obeys_get fun s => ⟨s, rfl⟩

theorem blameless_trace (level : TraceLevel) (target message : String)
    (fields : List (String × TraceValue)) :
    Blameless logger known (trace level target message fields : Attempt σ Unit) :=
  blameless_lift (Engine.obeys_trace _ _ _ _)

theorem blameless_ofOutcome {o : Outcome α}
    (knows : ∀ failure, o = .error failure → failure.isMissing = true → known failure) :
    Blameless logger known (ofOutcome o : Attempt σ α) :=
  ⟨obeys_ofOutcome o, fun _ failure ends missing => .inl (knows failure ends missing)⟩

theorem blameless_throw {failure : Failure} (knows : failure.isMissing = true → known failure) :
    Blameless logger known (throw failure : Attempt σ α) :=
  blameless_ofOutcome (o := .error failure) fun _ same => by
    cases same
    exact knows

theorem blameless_checkpoint (mode : Mode) :
    Blameless logger known (checkpoint mode : Attempt σ Unit) := by
  refine ⟨obeys_checkpoint mode, fun s failure ends missing => ?_⟩
  change mode.checkpoint s.scene.cancelled = .error failure at ends
  unfold Mode.checkpoint at ends
  split at ends <;> cases ends
  cases missing

theorem Blameless.mono {known' : Failure → Prop}
    (weaker : ∀ failure, known failure → known' failure) {m : Attempt σ α}
    (blameless : Blameless logger known m) : Blameless logger known' m :=
  ⟨blameless.grows, fun s failure ends missing =>
    (blameless.reported s failure ends missing).imp_left (weaker failure)⟩

theorem Blameless.bindWhere {P : α → Prop} {m : Attempt σ α} {f : α → Attempt σ β}
    (first : Blameless logger known m) (gives : ∀ s a t, m.observe s = (.ok a, t) → P a)
    (rest : ∀ a, P a → Blameless logger known (f a)) : Blameless logger known (m >>= f) := by
  refine ⟨fun s => ?_, fun s failure ends missing => ?_⟩
  all_goals
    have grows := first.grows s
    have tells := first.reported s
    rcases here : m.observe s with ⟨failure' | a, t⟩
    all_goals rw [here] at grows tells
  · rwa [observe_bind_error here]
  · rw [observe_bind_ok here]
    exact grows.trans ((rest a (gives s a t here)).grows t)
  · rw [observe_bind_error here] at ends ⊢
    cases ends
    exact tells _ rfl missing
  · rw [observe_bind_ok here] at ends ⊢
    exact ((rest a (gives s a t here)).reported t failure ends missing).imp_right (.after grows)

theorem Blameless.bind {m : Attempt σ α} {f : α → Attempt σ β} (first : Blameless logger known m)
    (rest : ∀ a, Blameless logger known (f a)) : Blameless logger known (m >>= f) :=
  first.bindWhere (P := fun _ => True) (fun _ _ _ _ => trivial) fun a _ => rest a

theorem Blameless.liftThen (owes : α → Failure → Prop) {m : Engine σ α} {f : α → Attempt σ β}
    (grows : Engine.Obeys Grows m)
    (tells : ∀ s failure, owes (m s).1 failure → failure.isMissing = true →
      known failure ∨ Surfaced logger failure s (m s).2)
    (rest : ∀ a, Blameless logger (fun failure => known failure ∨ owes a failure) (f a)) :
    Blameless logger known (lift m >>= f) := by
  refine ⟨(obeys_lift grows).bind fun a => (rest a).grows, fun s failure ends missing => ?_⟩
  rw [observe_lift_bind] at ends ⊢
  have later := (rest (m s).1).grows (m s).2
  rcases (rest (m s).1).reported _ failure ends missing with (before | owed) | reported
  · exact .inl before
  · exact (tells s failure owed missing).imp_right (.before · later)
  · exact .inr (.after (grows s) reported)

theorem Blameless.outcomeThen {m : Attempt σ α} {f : Outcome α → Attempt σ β}
    (first : Blameless logger known m)
    (rest : ∀ o, Blameless logger (fun failure => known failure ∨ o = .error failure) (f o)) :
    Blameless logger known (m.outcome >>= f) :=
  .liftThen (fun o failure => o = .error failure) first.grows first.reported rest

theorem Blameless.ite {p : Prop} [Decidable p] {m n : Attempt σ α}
    (yes : Blameless logger known m) (no : Blameless logger known n) :
    Blameless logger known (if p then m else n) := by
  split
  · exact yes
  · exact no

theorem blameless_noted {m : Attempt σ α} (notes : ∀ s, ∃ e,
    (m.observe s).2.journal = (s.noted e).journal ∧
      ∀ failure, (m.observe s).1 = .error failure →
        Moment.Reports logger failure ⟨s.scene, e⟩) : Blameless logger known m := by
  refine ⟨fun s => ?_, fun s failure ends _ => .inr ?_⟩
  · obtain ⟨e, journal, -⟩ := notes s
    exact (grows_noted e s).trans (grows_of_journal_eq journal)
  · obtain ⟨e, journal, reports⟩ := notes s
    exact surfaced_noted journal (reports failure ends)

theorem blameless_call {note : NativeCall} {mode : Mode} {d : Dual σ α}
    (tells : ∀ x, note.failure? x = ((d.perform mode x).1).failure?) :
    Blameless logger known (call note mode d) :=
  blameless_noted fun s => ⟨_, rfl, fun _ ends =>
    (tells s.scene).trans (congrArg Outcome.failure? ends)⟩

theorem blameless_callPlain {note : NativeCall} {a : Act σ (Result α)}
    (tells : ∀ x, note.failure? x = (Outcome.ofResult (a x).1).failure?) :
    Blameless logger known (callPlain note a) :=
  blameless_noted fun s => ⟨_, rfl, fun _ ends =>
    (tells s.scene).trans (congrArg Outcome.failure? ends)⟩

theorem blameless_foldHooks {mode : Mode} (stops : Bool) {deliver : ι → α → Engine σ Unit}
    {hook : ι → α → Dual σ α} {is : List ι}
    (delivers : ∀ i ∈ is, ∀ a s, ∃ e, (deliver i a s).2 = s.noted e ∧
      ∀ failure, ((hook i a).perform mode s.scene).1 = .error failure →
        Moment.Reports logger failure ⟨s.scene, e⟩) (a : α) :
    Blameless logger known (foldHooks mode stops deliver hook is a) := by
  induction is generalizing a with
  | nil => exact blameless_pure a
  | cons i rest ih =>
    have later := ih fun j member => delivers j (List.mem_cons_of_mem _ member)
    have one : Blameless logger known (do
        lift (deliver i a)
        ExceptT.mk (Engine.act ((hook i a).perform mode))) := by
      refine blameless_noted fun s => ?_
      obtain ⟨e, notes, reports⟩ := delivers i (List.mem_cons_self ..) a s
      refine ⟨e, ?_, ?_⟩
      all_goals rw [observe_lift_bind, notes]
      · rfl
      · exact reports
    have call : Blameless logger known (do
        lift (deliver i a)
        let next ← ExceptT.mk (Engine.act ((hook i a).perform mode))
        foldHooks mode stops deliver hook rest next) := by
      rw [← bind_assoc]
      exact one.bind later
    unfold foldHooks
    cases stops with
    | false => exact call
    | true => exact (blameless_checkpoint mode).bind fun _ => call

end Attempt

open Attempt

variable {logger : Option (Logger σ)} {known : Failure → Prop} {mode : Mode}

namespace Logger

variable {l : Logger σ} (heard : l ∈ logger)
include heard

theorem reports_of_failure {i : CommandInterceptor σ} (member : i ∈ l.commandInterceptors)
    {d : Delivery} (named : i.name = d.interceptor) {x : Scene σ} {failure : Failure}
    (fails : i.failure? d x = some failure) : Moment.Reports logger failure ⟨x, .hook d⟩ :=
  ⟨l, heard, i, member, named, fails⟩

theorem blameless_commandCreating (event : CommandEvent) :
    Blameless logger known (l.commandCreating event) := by
  refine (blameless_trace _ _ _ _).bind fun _ => blameless_foldHooks _ (fun i member r s => ?_) _
  refine ⟨_, rfl, fun failure ends => reports_of_failure heard member rfl ?_⟩
  rw [Dual.perform_ofBlocking] at ends
  simp only [CommandInterceptor.failure?, r.mapM_command?, Option.bind_some]
  exact congrArg Outcome.failure? ends

theorem reported_of_foldCreated (event : CommandEvent) {is : List (CommandInterceptor σ)}
    (members : ∀ i ∈ is, i ∈ l.commandInterceptors) (c : NativeCommand) (s : Session σ) {e : Error}
    (fails : (foldCreated event is c s).1.2 = .error e) :
    Surfaced logger (.error e) s (foldCreated event is c s).2 := by
  induction is generalizing c s with
  | nil => cases fails
  | cons i rest ih =>
    let d : Delivery :=
      ⟨i.name, i.coverage, .commandCreated, .blocking, .command event (some c), .nothing⟩
    have notes : (delivery i .commandCreated .blocking event (some c) .nothing s).2 =
        s.noted (.hook d) := rfl
    unfold foldCreated at fails ⊢
    rw [Engine.bind_apply, notes, Engine.bind_apply] at fails ⊢
    have acted : ∀ y, i.created event c s.scene = y → Engine.act (i.created event c)
        (s.noted (.hook d)) = (y.1, { s.noted (.hook d) with scene := y.2 }) := by
      rintro _ rfl
      rfl
    rcases creates : i.created event c s.scene with ⟨⟨c', e' | _⟩, x⟩
    all_goals rw [acted _ creates] at fails ⊢
    · cases fails
      have told : i.failure? d s.scene = some (.error e) := by
        change (Outcome.ofResult (i.created event c s.scene).1.2).failure? = _
        rw [creates]
        rfl
      exact surfaced_noted rfl
        (reports_of_failure heard (members i (List.mem_cons_self ..)) rfl told)
    · refine .after ?_ (ih (fun j member => members j (List.mem_cons_of_mem _ member)) _ _ fails)
      exact (grows_noted _ s).trans (grows_of_journal_eq rfl)

theorem reported_of_commandCreated (event : CommandEvent) (c : NativeCommand) (s : Session σ)
    {e : Error} (fails : (l.commandCreated event c s).1.2 = .error e) :
    Surfaced logger (.error e) s (l.commandCreated event c s).2 := by
  have traced := Engine.obeys_trace (R := Grows) .debug Trace.commandTarget
    ("Created DbCommand for '" ++ event.method.verb ++ "' " ++ Trace.elapsed)
    (Trace.commandFields event) s
  exact .after traced (reported_of_foldCreated heard event (fun _ member => member) c _ fails)

section Around

variable {around : CommandInterceptor σ → Around σ α} {payload : α → Engine σ Payload}
  {held : Payload → Option α} {event : CommandEvent}
  (holds : ∀ a s, held (payload a s).1 = some a) (silent : ∀ a s, (payload a s).2 = s)
  (tells : ∀ i, i.aroundFailure? event.method = (around i).failure? held)
include holds silent tells

theorem blameless_executing (c : NativeCommand) :
    Blameless logger known (l.executing mode around payload c event) := by
  refine (blameless_trace _ _ _ _).bind fun _ => blameless_foldHooks _ (fun i member r s => ?_) _
  have carried : (r.mapM payload s).1.mapM held = some r ∧ (r.mapM payload s).2 = s := by
    cases r with
    | noResult => exact ⟨rfl, rfl⟩
    | hasResult a => exact ⟨congrArg (Option.map Interception.hasResult) (holds a s), silent a s⟩
  refine ⟨.hook ⟨i.name, i.coverage, .executing event.method, mode, .command event (some c),
    .offered (r.mapM payload s).1⟩, ?_, fun failure ends =>
      reports_of_failure heard member rfl ?_⟩
  · rw [Engine.bind_apply, carried.2]
    rfl
  · simp only [CommandInterceptor.failure?, tells, Around.failure?, carried.1, Option.bind_some]
    exact congrArg Outcome.failure? ends

theorem blameless_executed (c : NativeCommand) (result : α) :
    Blameless logger known (l.executed mode around payload c event result) := by
  refine (blameless_trace _ _ _ _).bind fun _ => blameless_foldHooks _ (fun i member a s => ?_) _
  refine ⟨.hook ⟨i.name, i.coverage, .executed event.method, mode, .command event (some c),
    .given (payload a s).1⟩, ?_, fun failure ends => reports_of_failure heard member rfl ?_⟩
  · rw [Engine.bind_apply, silent a s]
    rfl
  · simp only [CommandInterceptor.failure?, tells, Around.failure?, holds, Option.bind_some]
    exact congrArg Outcome.failure? ends

end Around

end Logger

namespace ConnectionId

variable (c : ConnectionId)

theorem blameless_openNative : Blameless logger known (openNative mode c : Attempt σ Bool) := by
  unfold openNative
  refine blameless_get.bind fun s => .ite (blameless_pure _) ?_
  refine (blameless_trace _ _ _ _).bind fun _ => ?_
  refine Blameless.outcomeThen (blameless_call fun _ => rfl) fun o => ?_
  cases o with
  | ok _ => exact (blameless_trace _ _ _ _).bind fun _ => blameless_pure _
  | error failure =>
    have rethrows : ∀ _ : PUnit, Blameless logger
        (fun failure' => known failure' ∨ (.error failure : Outcome Unit) = .error failure')
        (throw failure : Attempt σ Bool) := fun _ => blameless_throw fun _ => .inr rfl
    cases failure with
    | error e => exact (blameless_trace _ _ _ _).bind rethrows
    | cancelled reason => exact rethrows ⟨⟩
    | panicked message => exact rethrows ⟨⟩

theorem blameless_acquire : Blameless logger known (acquire mode c : Attempt σ Bool) :=
  (blameless_openNative c).bind fun _ =>
    (blameless_lift fun _ => grows_of_journal_eq rfl).bind fun _ => blameless_pure _

theorem blameless_release : Blameless logger known (release mode c : Attempt σ Bool) := by
  refine blameless_get.bind fun s => (blameless_lift fun _ => grows_of_journal_eq rfl).bind
    fun _ => .ite (blameless_pure _) ?_
  exact (blameless_trace _ _ _ _).bind fun _ =>
    Blameless.bind (blameless_call fun _ => rfl) fun _ => blameless_pure _

theorem blameless_releaseOutcome :
    Blameless logger known (ExceptT.mk (releaseOutcome mode c) : Attempt σ Unit) := by
  refine ⟨serves_grows.gives mode c, fun s failure ends missing => ?_⟩
  refine (blameless_release c).reported s failure ?_ missing
  change ((release mode c).observe s).1.map (fun _ => ()) = .error failure at ends
  rcases releases : ((release mode c).observe s).1 with failure' | closed
  all_goals
    rw [releases] at ends
    cases ends
  rfl

end ConnectionId

namespace Cursor

variable (c : Cursor)

theorem blameless_gather {step : Attempt σ (Option α)}
    (blameless : Blameless logger known step) (n : Nat) :
    Blameless logger known (gather step n) := by
  induction n with
  | zero => exact blameless_throw fun missing => by cases missing
  | succ n ih =>
    refine blameless.bind fun found => ?_
    cases found with
    | none => exact blameless_pure _
    | some a => exact ih.bind fun _ => blameless_pure _

theorem blameless_resolve (total fields place : Nat) (columns : List ReaderColumn) :
    Blameless logger known (c.resolve total fields place columns : Attempt σ (List Nat)) := by
  induction columns generalizing place with
  | nil => exact blameless_pure _
  | cons column rest ih =>
    have later : ∀ ordinal : Nat, Blameless logger known (do
        return ordinal :: (← c.resolve total fields (place + 1) rest) : Attempt σ (List Nat)) :=
      fun _ => (ih _).bind fun _ => blameless_pure _
    unfold resolve
    cases column.name with
    | none =>
      exact .ite (later place) ((blameless_throw fun missing => by cases missing).bind later)
    | some name =>
      have found : Engine.Obeys (Grows (σ := σ)) (c.findColumn name (List.range fields)) :=
        obeys_findColumn (fun _ => allows_grows _) name _
      refine (blameless_lift found).bind fun ordinal => ?_
      cases ordinal with
      | none => exact (blameless_throw fun missing => by cases missing).bind later
      | some ordinal => exact later ordinal

theorem blameless_nameColumns (columns : List (ReaderColumn × Nat)) :
    Blameless logger known (c.nameColumns columns : Attempt σ (List Resolved)) := by
  induction columns with
  | nil => exact blameless_pure _
  | cons column rest ih =>
    unfold nameColumns
    cases column.1.name with
    | none =>
      exact (blameless_callPlain fun _ => rfl).bind fun _ => ih.bind fun _ => blameless_pure _
    | some name => exact ih.bind fun _ => blameless_pure _

theorem not_missing_of_check {detailed : Bool} {column : ReaderColumn} {name : String}
    {ordinal : Nat} {v : Value} {failure : Failure}
    (ends : Outcome.ofResult (column.check detailed name ordinal v) = .error failure) :
    failure.isMissing = false := by
  obtain ⟨e, checks, rfl⟩ := Outcome.error_of_ofResult ends
  unfold ReaderColumn.check at checks
  repeat' split at checks
  all_goals cases checks
  all_goals rfl

theorem blameless_checkedRow (detailed : Bool) (columns : List Resolved) :
    Blameless logger known (c.checkedRow detailed columns : Attempt σ (List Value)) := by
  induction columns with
  | nil => exact blameless_pure _
  | cons column rest ih =>
    refine (blameless_callPlain fun _ => rfl).bind fun v => ?_
    refine (blameless_ofOutcome fun failure ends missing => ?_).bind fun _ =>
      ih.bind fun _ => blameless_pure _
    rw [not_missing_of_check ends] at missing
    cases missing

theorem blameless_plainRow (ordinals : List Nat) :
    Blameless logger known (c.plainRow ordinals : Attempt σ (List Value)) := by
  induction ordinals with
  | nil => exact blameless_pure _
  | cons ordinal rest ih =>
    exact (blameless_callPlain fun _ => rfl).bind fun _ => ih.bind fun _ => blameless_pure _

theorem blameless_plainNames (ordinals : List Nat) :
    Blameless logger known (c.plainNames ordinals : Attempt σ (List String)) := by
  induction ordinals with
  | nil => exact blameless_pure _
  | cons ordinal rest ih =>
    exact (blameless_callPlain fun _ => rfl).bind fun _ => ih.bind fun _ => blameless_pure _

theorem blameless_rows {row : Attempt σ (List Value)} (blameless : Blameless logger known row) :
    Blameless logger known (c.rows mode row) := by
  refine (blameless_lift c.obeys_remaining).bind fun bound => blameless_gather ?_ _
  refine Blameless.bind (blameless_call fun _ => rfl) fun found => ?_
  exact .ite (blameless.bind fun _ => blameless_pure _) (blameless_pure _)

theorem blameless_firstSet (columns : List ReaderColumn) (detailed : Bool) :
    Blameless logger known (c.firstSet mode columns detailed : Attempt σ ResultSet) := by
  refine (blameless_lift c.obeys_fieldCount).bind fun fields => ?_
  refine (c.blameless_resolve _ _ _ _).bind fun ordinals => ?_
  refine (c.blameless_nameColumns _).bind fun resolved => ?_
  exact (c.blameless_rows (c.blameless_checkedRow _ _)).bind fun _ => blameless_pure _

theorem blameless_laterSet :
    Blameless logger known (c.laterSet mode : Attempt σ (Option ResultSet)) := by
  refine Blameless.bind (blameless_call fun _ => rfl) fun found => .ite ?_ (blameless_pure _)
  refine (blameless_checkpoint _).bind fun _ => (blameless_lift c.obeys_fieldCount).bind
    fun fields => (c.blameless_plainNames _).bind fun names => ?_
  exact (c.blameless_rows (c.blameless_plainRow _)).bind fun _ => blameless_pure _

theorem blameless_drain (columns : List ReaderColumn) (detailed : Bool) :
    Blameless logger known (c.drain mode columns detailed : Attempt σ (List ResultSet)) := by
  refine (c.blameless_firstSet columns detailed).bind fun first => ?_
  refine (blameless_lift c.obeys_remaining).bind fun bound => ?_
  refine (blameless_gather c.blameless_laterSet _).bind fun later => ?_
  exact (blameless_trace _ _ _ _).bind fun _ => blameless_pure _

theorem blameless_load (columns : List ReaderColumn) (detailed : Bool) :
    Blameless logger known (c.load mode columns detailed : Attempt σ BufferedReader) := by
  refine (c.blameless_drain columns detailed).outcomeThen fun loaded => ?_
  refine (blameless_lift c.obeys_recordsAffected).bind fun affected => ?_
  refine Blameless.outcomeThen (blameless_call fun _ => rfl) fun closed => ?_
  refine (blameless_ofOutcome fun failure ends _ => .inl (.inr ends)).bind fun _ => ?_
  exact (blameless_ofOutcome fun failure ends _ => .inr ends).bind fun _ => blameless_pure _

end Cursor

theorem NativeCommand.blameless_cleanUp (c : NativeCommand) (id : ConnectionId) :
    Blameless logger known (ExceptT.mk (c.cleanUp mode id) : Attempt σ Unit) := by
  have discards : Blameless logger known (ExceptT.mk (c.discard mode) : Attempt σ Unit) :=
    (blameless_lift (Engine.obeys_record (grows_noted _))).bind
      fun _ => blameless_call fun _ => rfl
  have cleans : (ExceptT.mk (c.cleanUp mode id) : Attempt σ Unit) = (do
      let disposed ← Attempt.outcome (ExceptT.mk (c.discard mode))
      let closed ← Attempt.outcome (ExceptT.mk (id.releaseOutcome mode))
      Attempt.ofOutcome (disposed.andThen closed)) := rfl
  rw [cleans]
  refine discards.outcomeThen fun disposed =>
    Blameless.outcomeThen id.blameless_releaseOutcome fun closed => ?_
  refine blameless_ofOutcome fun failure ends _ => ?_
  cases disposed with
  | ok _ => exact .inr ends
  | error failure' => exact .inl (.inr ends)

/-- A shape whose native operation is the call that is noted, and whose hooks are the ones that are
told, also where they fail. -/
structure Shape.Candid (shape : Shape σ α) (held : Payload → Option α) : Prop
    extends shape.Faithful where
  failure (c : NativeCommand) (mode : Mode) (x : Scene σ) :
    (NativeCall.execute shape.method c mode).failure? x =
      ((shape.native c).perform mode x).1.failure?
  holds (a : α) (s : Session σ) : held (shape.payload a s).1 = some a
  tells (i : CommandInterceptor σ) :
    i.aroundFailure? shape.method = (shape.around i).failure? held

namespace Shape

theorem nonQuery_candid : (nonQuery : Shape σ Int64).Candid Payload.rows? :=
  ⟨nonQuery_faithful, fun _ _ _ => rfl, fun _ _ => rfl, fun _ => rfl⟩

theorem scalar_candid : (scalar : Shape σ (Option Value)).Candid Payload.scalar? :=
  ⟨scalar_faithful, fun _ _ _ => rfl, fun _ _ => rfl, fun _ => rfl⟩

theorem reader_candid : (reader : Shape σ Cursor).Candid Payload.cursor? :=
  ⟨reader_faithful, fun _ _ _ => rfl, fun _ _ => rfl, fun _ => rfl⟩

end Shape

namespace Parameter

theorem Values.isSome_find?_iff (values : Values) (name : String) :
    (values.find? name).isSome ↔ ∃ v, (name, v) ∈ values := by
  unfold Values.find?
  rw [Option.isSome_map, List.find?_isSome]
  constructor
  · rintro ⟨⟨name', v⟩, member, same⟩
    rw [beq_iff_eq] at same
    exact ⟨v, same ▸ member⟩
  · rintro ⟨v, member⟩
    exact ⟨_, member, beq_self_eq_true name⟩

theorem mismatch_of_bindAll {values : Values} {ps : List Parameter} {e : Error}
    (given : ∀ p ∈ ps, (values.find? p.invariant).isSome)
    (fails : (bindAll values ps).result = .error e) :
    ∃ name message, e = .parameter .mismatch name message := by
  induction ps with
  | nil => cases fails
  | cons p rest ih =>
    obtain ⟨here, there⟩ := List.forall_mem_cons.1 given
    obtain ⟨v, found⟩ := Option.isSome_iff_exists.1 here
    unfold bindAll bind at fails
    rw [found] at fails
    have binds := p.bindValue_binds v
    rcases ends : p.bindValue v with ⟨added, e' | _⟩
    all_goals
      dsimp only at fails
      rw [ends] at fails binds
    · cases fails
      obtain ⟨place, ⟨q, part, refuses⟩, -⟩ := binds.error rfl
      exact ⟨_, refuses.names⟩
    · exact ih there fails

/-- There is a value for the parameter. -/
def IsGiven (values : Option Values) (p : Parameter) : Prop :=
  ∃ vs, values = some vs ∧ ∃ v, (p.invariant, v) ∈ vs

theorem isGiven_some {vs : Values} {p : Parameter} :
    p.IsGiven (some vs) ↔ (vs.find? p.invariant).isSome := by
  rw [vs.isSome_find?_iff]
  exact ⟨fun ⟨_, same, named⟩ => by cases same; exact named, fun named => ⟨vs, rfl, named⟩⟩

theorem not_isGiven_none {p : Parameter} : ¬ p.IsGiven none := by
  rintro ⟨_, ⟨⟩, _⟩

theorem checkValues_cases (ps : List Parameter) (values : Option Values) :
    (checkValues ps values = .ok () ∧ ∀ p ∈ ps, p.IsGiven values) ∨
    ∃ before p after, ps = before ++ p :: after ∧ (∀ q ∈ before, q.IsGiven values) ∧
      ¬ p.IsGiven values ∧ checkValues ps values = .error (.missingParameter p.invariant) := by
  rcases ps with _ | ⟨p, rest⟩
  · exact .inl ⟨rfl, by simp⟩
  rcases values with _ | vs
  · exact .inr ⟨[], p, rest, rfl, by simp, not_isGiven_none, rfl⟩
  simp only [isGiven_some, checkValues]
  cases found : (p :: rest).find? fun q => (vs.find? q.invariant).isNone with
  | none =>
    have passed := List.find?_eq_none.1 found
    exact .inl ⟨rfl, fun q member => by
      simpa [Option.isSome_iff_ne_none] using passed q member⟩
  | some q =>
    obtain ⟨absent, before, after, split, passed⟩ := List.find?_eq_some_iff_append.1 found
    refine .inr ⟨before, q, after, split, fun other member => ?_, by simpa using absent, rfl⟩
    simpa [Option.isSome_iff_ne_none] using passed other member

theorem checkValues_eq_ok_iff (ps : List Parameter) (values : Option Values) :
    checkValues ps values = .ok () ↔ ∀ p ∈ ps, p.IsGiven values := by
  rcases checkValues_cases ps values with ⟨valid, given⟩ | ⟨before, p, after, rfl, -, absent, named⟩
  · exact ⟨fun _ => given, fun _ => valid⟩
  · exact ⟨fun valid => absurd (named.symm.trans valid) (by simp),
      fun given => absurd (given p (by simp)) absent⟩

theorem forall_isGiven_iff (ps : List Parameter) (values : Option Values) :
    (∀ p ∈ ps, p.IsGiven values) ↔
      ps = [] ∨ ∃ vs, values = some vs ∧ ∀ p ∈ ps, ∃ v, (p.invariant, v) ∈ vs := by
  rcases ps with _ | ⟨p, rest⟩
  · simp
  constructor
  · intro given
    obtain ⟨vs, rfl, -⟩ := given p (List.mem_cons_self ..)
    refine .inr ⟨vs, rfl, fun q member => ?_⟩
    obtain ⟨_, ⟨⟩, named⟩ := given q member
    exact named
  · rintro (⟨⟨⟩⟩ | ⟨vs, rfl, named⟩) q member
    exact ⟨vs, rfl, named q member⟩

end Parameter

namespace Statement

variable {s : Statement} {r : Request σ} {info : ExecutionInfo}

theorem mismatch_of_bind {s : Statement} {values : Option Parameter.Values} {e : Error}
    (valid : s.validate values = .ok ()) (fails : (s.bind values).result = .error e) :
    ∃ name message, e = .parameter .mismatch name message := by
  obtain ⟨text, ps⟩ := s
  have given := (Parameter.checkValues_eq_ok_iff ps values).1 valid
  unfold bind at fails
  split at fails
  · cases fails
  · next p rest same =>
    have member : p ∈ p :: rest := List.mem_cons_self ..
    rw [← same] at member
    exact absurd (given p member) Parameter.not_isGiven_none
  · exact Parameter.mismatch_of_bindAll
      (fun p member => Parameter.isGiven_some.1 (given p member)) fails

theorem blameless_create : Blameless logger known (create info : Attempt σ NativeCommand) :=
  blameless_callPlain fun _ => rfl

theorem blameless_obtain_bind {raised : Option (Logger σ)} (heard : ∀ l ∈ raised, l ∈ logger)
    {f : NativeCommand × Result Unit → Attempt σ α}
    (rest : ∀ x, Blameless logger
      (fun failure => known failure ∨ Outcome.ofResult x.2 = .error failure) (f x)) :
    Blameless logger known (obtain info raised >>= f) := by
  cases raised with
  | none =>
    unfold obtain
    rw [bind_assoc]
    refine blameless_create.bind fun c => ?_
    rw [pure_bind]
    exact (rest (c, .ok ())).mono fun failure => fun
      | .inl before => before
      | .inr fails => by cases fails
  | some l =>
    have concludes (event : CommandEvent) (c : NativeCommand) :
        Blameless logger known (Attempt.lift (l.commandCreated event c) >>= f) := by
      refine .liftThen (fun x failure => Outcome.ofResult x.2 = .error failure)
        (Logger.obeys_commandCreated (serves_grows.hears _) (eachHook_grows l) event c)
        (fun s failure fails _ => .inr ?_) rest
      obtain ⟨e, hooked, rfl⟩ := Outcome.error_of_ofResult fails
      exact Logger.reported_of_commandCreated (heard l rfl) event c s hooked
    unfold obtain
    simp only [bind_assoc]
    refine (blameless_lift info.obeys_event).bind fun event => ?_
    refine (Logger.blameless_commandCreating (heard l rfl) event).bind fun offered => ?_
    cases offered with
    | hasResult c =>
      dsimp only
      rw [pure_bind]
      exact concludes event c
    | noResult =>
      dsimp only
      rw [bind_assoc]
      exact blameless_create.bind (concludes event)

theorem blameless_equipped (valid : s.validate r.values = .ok ()) :
    Blameless r.logger known (s.equipped r info) := by
  unfold equipped yielded
  rw [bind_assoc]
  refine blameless_get.bind fun u => blameless_obtain_bind (fun l raised =>
    (Option.mem_filter_iff.1 raised).1) fun x => ?_
  refine blameless_get.bind fun v => Blameless.bind ?_ fun _ => blameless_pure _
  refine blameless_ofOutcome fun failure fails missing => ?_
  rcases hooked : x.2 with e | _
  · rw [hooked] at fails
    exact .inr fails
  · rw [hooked] at fails
    obtain ⟨e, binds, rfl⟩ := Outcome.error_of_ofResult fails
    obtain ⟨_, _, rfl⟩ := mismatch_of_bind valid binds
    cases missing

theorem blameless_openFor (id : ConnectionId) :
    Blameless logger known (openFor mode id : Attempt σ Bool) :=
  (blameless_checkpoint mode).bind fun _ => id.blameless_acquire

theorem blameless_run {shape : Shape σ α} {held : Payload → Option α} (candid : shape.Candid held)
    (ran : info.method = shape.method) {raised : Option (Logger σ)}
    (heard : ∀ l ∈ raised, l ∈ logger) (c : NativeCommand) :
    Blameless logger known (run shape mode raised info c) := by
  have native : Blameless logger known
      (Attempt.call (.execute shape.method c mode) mode (shape.native c)) :=
    blameless_call (candid.failure c mode)
  refine (blameless_checkpoint mode).bind fun _ => ?_
  cases raised with
  | none => exact native
  | some l =>
    refine (blameless_lift info.obeys_event).bindWhere
      (P := fun event : CommandEvent => event.method = shape.method) ?_ fun event same => ?_
    · rintro s event t raises
      cases raises
      exact ran
    · have tells (i : CommandInterceptor σ) :
          i.aroundFailure? event.method = (shape.around i).failure? held := by
        rw [same]
        exact candid.tells i
      refine (Logger.blameless_executing (heard l rfl) candid.holds candid.quiet tells c).bind
        fun offered => ?_
      have executed (a : α) :
          Blameless logger known (l.executed mode shape.around shape.payload c event a) :=
        Logger.blameless_executed (heard l rfl) candid.holds candid.quiet tells c a
      cases offered with
      | hasResult a => exact executed a
      | noResult => exact (blameless_checkpoint mode).bind fun _ => native.bind executed

theorem blameless_performing {shape : Shape σ α} {held : Payload → Option α}
    (candid : shape.Candid held) (valid : s.validate r.values = .ok ()) :
    Blameless r.logger known (s.performing shape mode r) := by
  have enters : Blameless r.logger known (s.enter shape.method mode r) := by
    refine (blameless_ofOutcome fun failure fails _ => ?_).bind fun _ =>
      (blameless_checkpoint mode).bind fun _ => (blameless_lift Engine.obeys_newTicket).bind
        fun _ => (blameless_lift (Engine.obeys_raising _ _)).bind fun _ => blameless_pure _
    rw [valid] at fails
    cases fails
  unfold performing opening
  simp only [bind_assoc, pure_bind]
  refine enters.bindWhere (P := fun setting =>
    setting.info.method = shape.method ∧ ∀ l ∈ setting.logger, l ∈ r.logger)
    (fun start setting t enters => ?_) fun setting ⟨ran, heard⟩ => ?_
  · obtain ⟨info, logger, -⟩ := enter_ok enters
    refine ⟨congrArg ExecutionInfo.method info, fun l raised => ?_⟩
    rw [logger] at raised
    exact (Option.mem_filter_iff.1 raised).1
  · exact (blameless_equipped valid).bind fun c => (blameless_openFor _).bind fun _ =>
      (blameless_run candid ran heard c).bind fun _ => blameless_pure _

theorem blameless_execute {shape : Shape σ α} {held : Payload → Option α}
    (candid : shape.Candid held) (valid : s.validate r.values = .ok ()) :
    Blameless r.logger known (s.execute shape mode r) := by
  refine ⟨s.obeys_execute serves_grows candid.toFaithful (fun l _ => eachHook_grows l) mode,
    fun start failure ends missing => ?_⟩
  rw [execute_outcome] at ends
  have abandons : ∀ (l : Option (Logger σ)) info c e opened, Engine.Obeys Grows
      (abandon mode l info c e opened) := fun l info c e opened =>
    obeys_abandon (serves_grows.hears _) serves_grows.discards (fun l _ => eachHook_grows l)
      (fun _ => serves_grows.gives mode _) c e
  exact ((blameless_performing candid valid).reported start failure ends missing).imp_right
    (.before · (execute_after abandons shape s r start))

theorem blameless_executeOnce {shape : Shape σ α} {held : Payload → Option α}
    (candid : shape.Candid held) (valid : s.validate r.values = .ok ()) :
    Blameless r.logger known (s.executeOnce shape mode r) :=
  (blameless_execute candid valid).bind fun execution =>
    (execution.command.blameless_cleanUp r.connection).outcomeThen fun _ =>
      (blameless_ofOutcome fun _ ends _ => .inr ends).bind fun _ => blameless_pure _

theorem blameless_openCursor (valid : s.validate r.values = .ok ()) :
    Blameless r.logger known (s.openCursor mode r) := by
  refine (blameless_execute Shape.reader_candid valid).bind fun ⟨cursor, c, info⟩ => ?_
  cases r.columns with
  | none => exact blameless_pure _
  | some columns =>
    refine (cursor.blameless_load columns r.detailedErrors).outcomeThen fun loaded => ?_
    cases loaded with
    | ok buffer => exact blameless_pure _
    | error failure =>
      refine (blameless_lift ?_).bind fun _ => blameless_throw fun _ => .inr rfl
      exact Engine.Obeys.bind (NativeCommand.obeys_cleanUp serves_grows.discards
        (serves_grows.gives mode _) c) fun _ => Engine.obeys_warn _ _ _ _

/-- A call that starts here misses a value only where one is not given, before anything else is
done, or because that was reported to it. -/
structure HeedsValues (s : Statement) (r : Request σ) (start : Session σ)
    (call : Outcome α × Session σ) : Prop where
  stopped {e : Error} (invalid : s.validate r.values = .error e) :
    call = (.error (.error e), start)
  reported (valid : s.validate r.values = .ok ()) {failure : Failure}
    (ends : call.1 = .error failure) (missing : failure.isMissing = true) :
    start.Surfaced r.logger failure call.2

/-- What is done about the values of a statement that are missing. -/
structure ChecksValues (s : Statement) (r : Request σ) : Prop where
  passes : s.validate r.values = .ok () ↔ s.parameters = [] ∨
    ∃ values, r.values = some values ∧ ∀ p ∈ s.parameters, ∃ v, (p.invariant, v) ∈ values
  names {e : Error} (invalid : s.validate r.values = .error e) :
    ∃ before p after, s.parameters = before ++ p :: after ∧
      (∀ q ∈ before, q.IsGiven r.values) ∧ ¬ p.IsGiven r.values ∧ e = .missingParameter p.invariant
  /-- Without any values it is the first parameter that is named. -/
  unsupplied (none : r.values = none) {p : Parameter} {rest : List Parameter}
    (declared : s.parameters = p :: rest) :
    s.validate r.values = .error (.missingParameter p.invariant)
  binds (valid : s.validate r.values = .ok ()) {e : Error}
    (fails : (s.bind r.values).result = .error e) :
    ∃ name message, e = .parameter .mismatch name message
  executeNonQuery (mode : Mode) (start : Session σ) :
    s.HeedsValues r start ((s.executeNonQuery mode r).observe start)
  executeScalar (mode : Mode) (start : Session σ) :
    s.HeedsValues r start ((s.executeScalar mode r).observe start)
  executeReader (mode : Mode) (start : Session σ) (reader : Option (DataReader σ)) :
    let call := Command.executeReader mode r ⟨s, reader⟩ start
    s.HeedsValues r start (call.1.1, call.2) ∧
      ∀ e, s.validate r.values = .error e → call.1.2 = ⟨s, reader⟩

theorem execute_of_invalid {e : Error} (invalid : s.validate r.values = .error e)
    (shape : Shape σ α) (mode : Mode) (start : Session σ) :
    (s.execute shape mode r).observe start = (.error (.error e), start) := by
  have enters : (s.enter shape.method mode r).observe start = (.error (.error e), start) := by
    rw [enter_apply, invalid]
  rw [execute_eq, Attempt.observe_bind_error enters]

theorem executeOnce_heedsValues {shape : Shape σ α} {held : Payload → Option α}
    (candid : shape.Candid held) (s : Statement) (r : Request σ) (mode : Mode) (start : Session σ) :
    s.HeedsValues r start ((s.executeOnce shape mode r).observe start) where
  stopped invalid := Attempt.observe_bind_error (execute_of_invalid invalid shape mode start) _
  reported valid failure ends missing := by
    have blameless : Blameless r.logger (fun _ => False) (s.executeOnce shape mode r) :=
      blameless_executeOnce candid valid
    exact (blameless.reported start failure ends missing).resolve_left id

theorem executeReader_of_invalid {e : Error} (invalid : s.validate r.values = .error e)
    (mode : Mode) (start : Session σ) (reader : Option (DataReader σ)) :
    Command.executeReader mode r ⟨s, reader⟩ start = ((.error (.error e), ⟨s, reader⟩), start) := by
  have unopened : (s.openCursor mode r).observe start = (.error (.error e), start) :=
    Attempt.observe_bind_error (execute_of_invalid invalid .reader mode start) _
  rw [Command.executeReader_apply, unopened]

theorem executeReader_heedsValues (s : Statement) (r : Request σ) (mode : Mode) (start : Session σ)
    (reader : Option (DataReader σ)) :
    s.HeedsValues r start ((Command.executeReader mode r ⟨s, reader⟩ start).1.1,
      (Command.executeReader mode r ⟨s, reader⟩ start).2) where
  stopped invalid := by rw [executeReader_of_invalid invalid]
  reported valid failure ends missing := by
    have blameless : Blameless r.logger (fun _ => False) (s.openCursor mode r) :=
      blameless_openCursor valid
    have reported := blameless.reported start failure
    rw [Command.executeReader_apply] at ends ⊢
    rcases opens : (s.openCursor mode r).observe start with ⟨failure' | b, t⟩
    all_goals
      rw [opens] at ends reported
      cases ends
    exact (reported rfl missing).resolve_left id

/-- Missing values are found before anything is done, and never again after that. -/
theorem checksValues (s : Statement) (r : Request σ) : s.ChecksValues r where
  passes := (Parameter.checkValues_eq_ok_iff _ _).trans (Parameter.forall_isGiven_iff _ _)
  names {e} invalid := by
    rcases Parameter.checkValues_cases s.parameters r.values with
      ⟨valid, -⟩ | ⟨before, p, after, split, given, absent, named⟩
    · exact absurd (valid.symm.trans invalid) (by simp)
    · cases named.symm.trans invalid
      exact ⟨before, p, after, split, given, absent, rfl⟩
  unsupplied none _ _ declared := by
    rw [validate, declared, none]
    rfl
  binds valid _ fails := mismatch_of_bind valid fails
  executeNonQuery := executeOnce_heedsValues Shape.nonQuery_candid s r
  executeScalar := executeOnce_heedsValues Shape.scalar_candid s r
  executeReader mode start reader :=
    ⟨executeReader_heedsValues s r mode start reader, fun _ invalid => by
      rw [executeReader_of_invalid invalid]⟩

end Statement

end Driven

end SqlExecution
