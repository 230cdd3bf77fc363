import SqlExecution.Proofs.FirstFailure
import SqlExecution.Scripted.Hooks

/-! What one interceptor is told of a call. The events come at most once each and in order, those of
creation and of execution only where they are logged. That the command failed comes last, exactly
where a stage fails that has a command and whose failure is logged. -/

namespace SqlExecution

variable {σ α β : Type}

open Session

namespace Hook

def ofCommand : Hook → Bool
  | commandCreating => true
  | commandCreated => true
  | executing _ => true
  | executed _ => true
  | commandFailed => true
  | _ => false

end Hook

/-- The event of a command that an interceptor of this name is told of. -/
def Entry.told? (n : String) : Entry → Option Hook
  | .hook d => if d.interceptor = n ∧ d.hook.ofCommand then some d.hook else none
  | _ => none

theorem Entry.told?_hook {n : String} {d : Delivery} (command : d.hook.ofCommand = true) :
    (Entry.hook d).told? n = if d.interceptor = n then some d.hook else none := by
  simp [told?, command]

namespace Facet

def told (n : String) : Facet where
  sees e := (e.told? n).isSome

theorem reached_refines_told (n : String) : reached.Refines (told n) := by
  rintro (call | d | record | w | text) seen <;> first | rfl | cases seen

theorem told_hooksOnly (n : String) : (told n).HooksOnly Hook.ofCommand := by
  intro d other
  simp [told, Entry.told?, other]

theorem told_focused (n : String) : (told n).Focused :=
  .of_hooksOnly (fun _ _ => rfl) (told_hooksOnly n) rfl

end Facet

namespace Session

variable {n : String} {s t u : Session σ} {hooks hooks' : List Hook}

/-- From one moment to the other, an interceptor of this name is told of exactly these events. -/
def Told (n : String) (s : Session σ) (hooks : List Hook) (t : Session σ) : Prop :=
  ∃ added, t.journal = s.journal ++ added ∧ added.filterMap (·.entry.told? n) = hooks

theorem Told.trans (first : Told n s hooks t) (second : Told n t hooks' u) :
    Told n s (hooks ++ hooks') u := by
  obtain ⟨added, journal, rfl⟩ := first
  obtain ⟨more, journal', rfl⟩ := second
  exact ⟨added ++ more, by rw [journal', journal, List.append_assoc], List.filterMap_append⟩

theorem Shows.told {f : Facet} (finer : f.Refines (.told n)) {ms : List (Moment σ)}
    (h : Shows f s ms t) : Told n s (ms.filterMap (·.entry.told? n)) t := by
  obtain ⟨added, journal, rfl⟩ := h
  refine ⟨added, journal, ?_⟩
  rw [List.filterMap_filter]
  congr 1
  funext m
  cases told : m.entry.told? n with
  | none => simp
  | some hook =>
    have seen : f.sees m.entry = true := finer _ (by simp [Facet.told, told])
    simp [seen]

theorem Told.of_hides (hidden : Hides (.told n) s t) : Told n s [] t :=
  hidden.told fun _ seen => seen

theorem Told.before (h : Told n s hooks t) (hidden : Hides (.told n) t u) : Told n s hooks u := by
  simpa using h.trans (.of_hides hidden)

end Session

/-- Whatever a computation starts from, of these events an interceptor of this name is told some, in
order. -/
def Engine.Tells (n : String) (hooks : List Hook) (m : Engine σ α) : Prop :=
  ∀ s : Session σ, ∃ told : List Hook, s.Told n told (m s).2 ∧ told.Sublist hooks

namespace Attempt

variable {n : String} {hooks hooks' : List Hook} {m : Attempt σ α}

abbrev Tells (n : String) (hooks : List Hook) (m : Attempt σ α) : Prop :=
  Engine.Tells n hooks m.observe

theorem Tells.of_obeys (hidden : Obeys (Hides (.told n)) m) : Tells n [] m :=
  fun s => ⟨[], .of_hides (hidden s), .refl _⟩

theorem Tells.bind {f : α → Attempt σ β} (first : Tells n hooks m)
    (rest : ∀ a, Tells n hooks' (f a)) : Tells n (hooks ++ hooks') (m >>= f) := by
  intro s
  rw [observe_bind_apply]
  obtain ⟨told, tells, allowed⟩ := first s
  generalize m.observe s = ends at tells ⊢
  obtain ⟨failure | a, t⟩ := ends
  · exact ⟨told, tells, allowed.trans (List.sublist_append_left ..)⟩
  · obtain ⟨told', tells', allowed'⟩ := rest a t
    exact ⟨told ++ told', tells.trans tells', allowed.append allowed'⟩

theorem Tells.after {f : α → Attempt σ β} (hidden : Obeys (Hides (.told n)) m)
    (rest : ∀ a, Tells n hooks (f a)) : Tells n hooks (m >>= f) := (of_obeys hidden).bind rest

theorem Tells.before {f : α → Attempt σ β} (first : Tells n hooks m)
    (hidden : ∀ a, Obeys (Hides (.told n)) (f a)) : Tells n hooks (m >>= f) := by
  simpa using first.bind fun a => of_obeys (hidden a)

end Attempt

section Heard

variable {n : String}

/-- How many of them have this name. -/
def CommandInterceptor.called (n : String) (is : List (CommandInterceptor σ)) : Nat :=
  (is.map (·.name)).count n

theorem Relay.told {round : Round σ (CommandInterceptor σ) α φ} {hook : Hook}
    (notes : ∀ i a scene, ∃ d, round.notes i a scene = .hook d ∧ d.interceptor = i.name ∧
      d.hook = hook) (command : hook.ofCommand = true)
    {is : List (CommandInterceptor σ)} {a : α} {scene last : Scene σ} {ms : List (Moment σ)}
    {o : Except φ α} (relay : Relay round is a scene ms o last) :
    (ms.filterMap (·.entry.told? n)).Sublist
      (List.replicate (CommandInterceptor.called n is) hook) := by
  have tells : ∀ i a (scene : Scene σ), (round.notes i a scene).told? n =
      if i.name = n then some hook else none := by
    intro i a scene
    obtain ⟨d, note, name, rfl⟩ := notes i a scene
    rw [note, Entry.told?_hook command, name]
  -- A hook is only told to the interceptor whose it is, so each of them adds one entry at most.
  induction relay with
  | done => exact .slnil
  | stopped _ => simp
  | @failed i rest a _ scene _ _ _ =>
    by_cases name : i.name = n <;> simp [tells, name, CommandInterceptor.called]
  | @passed i rest a _ ms _ scene _ _ _ _ _ ih =>
    by_cases name : i.name = n
    · simpa [tells, name, CommandInterceptor.called, List.replicate_succ] using ih
    · simpa [tells, name, CommandInterceptor.called] using ih

theorem Logger.told_failure (mode : Mode) (c : NativeCommand) (event : CommandEvent) (e : Error)
    (is : List (CommandInterceptor σ)) :
    (is.map (Entry.hook ∘ Logger.failure mode c event e)).filterMap (Entry.told? n) =
      List.replicate (CommandInterceptor.called n is) .commandFailed := by
  induction is with
  | nil => rfl
  | cons i rest ih =>
    have tells : (Entry.hook (Logger.failure mode c event e i)).told? n =
        if i.name = n then some .commandFailed else none := Entry.told?_hook rfl
    by_cases name : i.name = n
    · simpa [tells, name, CommandInterceptor.called, List.replicate_succ] using ih
    · simpa [tells, name, CommandInterceptor.called] using ih

theorem Session.Relays.told {round : Round σ (CommandInterceptor σ) α φ} (hook : Hook)
    (notes : ∀ i a scene, ∃ d, round.notes i a scene = .hook d ∧ d.interceptor = i.name ∧
      d.hook = hook) (command : hook.ofCommand = true)
    {is : List (CommandInterceptor σ)} {a : α} {s t : Session σ} {ms : List (Moment σ)}
    {o : Except φ α} (relays : Relays round is a s ms o t) :
    ∃ told, s.Told n told t ∧
      told.Sublist (List.replicate (CommandInterceptor.called n is) hook) :=
  ⟨_, relays.shows.told (Facet.reached_refines_told n), relays.relay.told notes command⟩

/-- How often an interceptor of this name hears what is raised. -/
def Logger.heard (n : String) (raised : Option (Logger σ)) : Nat :=
  CommandInterceptor.called n (Logger.hearers raised)

theorem Logger.filterMap_told_failure {raised : Option (Logger σ)} {mode : Mode} {c : NativeCommand}
    {event : CommandEvent} {e : Error} {ms : List (Moment σ)}
    (entries : ms.map (·.entry) =
      (Logger.hearers raised).map (.hook ∘ Logger.failure mode c event e)) :
    ms.filterMap (·.entry.told? n) = List.replicate (Logger.heard n raised) .commandFailed := by
  have same : ms.filterMap (·.entry.told? n) = (ms.map (·.entry)).filterMap (Entry.told? n) := by
    rw [List.filterMap_map]
    rfl
  rw [same, entries, told_failure]
  rfl

end Heard

namespace Statement

variable {n : String} {shape : Shape σ α} {mode : Mode} {c : NativeCommand} {info : ExecutionInfo}

theorem tells_event {hooks : List Hook} {f : CommandEvent → Attempt σ α}
    (rest : ∀ id, Attempt.Tells n hooks (f (info.eventAs id))) :
    Attempt.Tells n hooks (Attempt.lift info.event >>= f) := by
  intro s
  obtain ⟨id, t, identifies, unnoticed⟩ := info.event_apply s
  obtain ⟨told, tells, allowed⟩ := rest id t
  rw [Attempt.observe_lift_bind, identifies]
  exact ⟨told, Told.trans (.of_hides (unnoticed.hidden _)) tells, allowed⟩

section Running

variable (plain : shape.Plain)
include plain

theorem executing_tells (l : Logger σ) (event : CommandEvent) :
    Attempt.Tells n (List.replicate (Logger.heard n (some l)) (.executing event.method))
      (l.executing mode shape.around shape.payload c event) := by
  intro s
  obtain ⟨ms, relays⟩ := executing_relays plain l event s
  exact relays.told (.executing event.method) (fun _ _ _ => ⟨_, rfl, rfl, rfl⟩) rfl

theorem executed_tells (l : Logger σ) (event : CommandEvent) (a : α) :
    Attempt.Tells n (List.replicate (Logger.heard n (some l)) (.executed event.method))
      (l.executed mode shape.around shape.payload c event a) := by
  intro s
  obtain ⟨ms, relays⟩ := executed_relays plain l event a s
  exact relays.told (.executed event.method) (fun _ _ _ => ⟨_, rfl, rfl, rfl⟩) rfl

theorem conclude_tells (reached : Reached σ α)
    (method : ∀ raised ∈ reached.raised, raised.2.method = info.method) :
    Attempt.Tells n (List.replicate (Logger.heard n (reached.raised.map (·.1)))
      (.executed info.method)) (conclude shape mode c reached) := by
  obtain ⟨a, native, _ | ⟨l, event⟩⟩ := reached
  · exact .of_obeys (.pure a)
  · rw [← method _ rfl]
    exact executed_tells plain l event a

variable [Driver σ] (faithful : shape.Faithful)
include faithful

theorem reach_tells (raised : Option (Logger σ)) :
    Attempt.Tells n (List.replicate (Logger.heard n raised) (.executing info.method))
      (reach shape mode raised info c) := by
  have native : ∀ raised, Attempt.Obeys (Hides (.told n)) (do
      return (⟨← Attempt.call (.execute shape.method c mode) mode (shape.native c), true, raised⟩ :
        Reached σ α)) := fun raised =>
    (obeys_native faithful (allows_hides rfl)).bind fun _ => .pure _
  unfold reach
  refine .after (Attempt.obeys_checkpoint mode) fun _ => ?_
  cases raised with
  | none => exact .of_obeys (native none)
  | some l =>
    refine tells_event fun id => (executing_tells plain l _).before fun offered => ?_
    cases offered with
    | hasResult a => exact .pure _
    | noResult => exact (Attempt.obeys_checkpoint mode).bind fun _ => native _

omit plain faithful [Driver σ] in
theorem reach_ok {raised : Option (Logger σ)} {s t : Session σ} {reached : Reached σ α}
    (reaches : (reach shape mode raised info c).observe s = (.ok reached, t)) :
    reached.raised.map (·.1) = raised ∧ ∀ x ∈ reached.raised, x.2.method = info.method := by
  unfold reach at reaches
  obtain ⟨_, u, _, reaches⟩ := Attempt.ok_of_bind_ok reaches
  cases raised with
  | none =>
    obtain ⟨a, v, _, same⟩ := Attempt.ok_of_bind_ok reaches
    cases same
    exact ⟨rfl, by simp⟩
  | some l =>
    obtain ⟨id, v, identifies, _⟩ := info.event_apply u
    rw [Attempt.observe_lift_bind, identifies] at reaches
    obtain ⟨offered, w, _, reaches⟩ := Attempt.ok_of_bind_ok reaches
    cases offered with
    | hasResult a =>
      cases reaches
      exact ⟨rfl, by simp [ExecutionInfo.eventAs]⟩
    | noResult =>
      obtain ⟨_, x, _, reaches⟩ := Attempt.ok_of_bind_ok reaches
      obtain ⟨a, y, _, same⟩ := Attempt.ok_of_bind_ok reaches
      cases same
      exact ⟨rfl, by simp [ExecutionInfo.eventAs]⟩

theorem run_told (n : String) (mode : Mode) (raised : Option (Logger σ)) (info : ExecutionInfo)
    (c : NativeCommand) (s : Session σ) :
    ∃ hooks, s.Told n hooks ((run shape mode raised info c).observe s).2 ∧
      hooks.Sublist (List.replicate (Logger.heard n raised) (.executing info.method) ++
        List.replicate (Logger.heard n raised) (.executed info.method)) ∧
      (.executed info.method ∈ hooks → ∃ reached t before,
        (reach shape mode raised info c).observe s = (.ok reached, t) ∧ s.Told n before t ∧
        .executed info.method ∉ before) := by
  obtain ⟨before, tells, allowed⟩ := reach_tells plain faithful raised s
  have other : Hook.executed info.method ∉ before := by
    intro member
    have is := List.eq_of_mem_replicate (allowed.subset member)
    cases is
  rw [run_eq, Attempt.observe_bind_apply]
  rcases reaches : (reach shape mode raised info c).observe s with ⟨failure | reached, t⟩
  all_goals rw [reaches] at tells
  · exact ⟨before, tells, allowed.trans (List.sublist_append_left ..),
      fun member => absurd member other⟩
  · obtain ⟨raises, method⟩ := reach_ok reaches
    have concluding : Attempt.Tells n _ (conclude shape mode c reached) :=
      conclude_tells plain reached method
    obtain ⟨after, concludes, last⟩ := concluding t
    rw [raises] at last
    exact ⟨before ++ after, tells.trans concludes, allowed.append last,
      fun _ => ⟨reached, t, before, rfl, tells, other⟩⟩

end Running

section Opening

theorem commandCreated_tells (l : Logger σ) (event : CommandEvent) (c : NativeCommand) :
    Attempt.Tells n (List.replicate (Logger.heard n (some l)) .commandCreated)
      (Attempt.lift (l.commandCreated event c)) := by
  intro s
  obtain ⟨ms, o, relays, _⟩ := l.commandCreated_relays event c s
  exact relays.told .commandCreated (fun _ _ _ => ⟨_, rfl, rfl, rfl⟩) rfl

variable [Driver σ]

theorem obtain_tells (info : ExecutionInfo) (raised : Option (Logger σ)) :
    Attempt.Tells n (List.replicate (Logger.heard n raised) .commandCreating ++
      List.replicate (Logger.heard n raised) .commandCreated) (obtain info raised) := by
  have creates : Attempt.Obeys (Hides (.told n)) (create info : Attempt σ NativeCommand) :=
    obeys_create (allows_hides rfl)
  unfold obtain
  cases raised with
  | none => exact .of_obeys (creates.bind fun _ => .pure _)
  | some l =>
    have creating : ∀ event, Attempt.Tells n
        (List.replicate (Logger.heard n (some l)) .commandCreating) (l.commandCreating event) := by
      intro event s
      obtain ⟨ms, relays⟩ := commandCreating_relays l event s
      exact relays.told .commandCreating (fun _ _ _ => ⟨_, rfl, rfl, rfl⟩) rfl
    refine tells_event fun id => (creating _).bind fun offered => ?_
    cases offered with
    | hasResult c => exact commandCreated_tells l _ c
    | noResult => exact .after creates fun c => commandCreated_tells l _ c

theorem opening_told (n : String) (s : Statement) (method : Method) (mode : Mode) (r : Request σ)
    (start : Session σ) :
    ∃ hooks : List Hook, start.Told n hooks ((s.opening method mode r).observe start).2 ∧
      hooks.Sublist
        (List.replicate (Logger.heard n (r.logger.filter (·.raisesCreate start.traceLimit)))
            .commandCreating ++
          List.replicate (Logger.heard n (r.logger.filter (·.raisesCreate start.traceLimit)))
            .commandCreated) := by
  rcases enters : (s.enter method mode r).observe start with ⟨failure | setting, t⟩
  · have entered := s.obeys_enter (R := Hides (.told n)) method mode r start
    have opens : (s.opening method mode r).observe start = (.error failure, t) :=
      Attempt.observe_bind_error enters _
    rw [enters] at entered
    rw [opens]
    exact ⟨[], .of_hides entered, List.nil_sublist _⟩
  · have hidden := hides_opening_of_yielded (Facet.told_focused n) enters
    obtain ⟨_, _, rfl⟩ := enter_ok enters
    have asked : (yielded r setting.info).observe start.ticketed =
        (obtain setting.info (r.logger.filter (·.raisesCreate start.traceLimit))).observe
          start.ticketed := Attempt.observe_get_bind _ _
    obtain ⟨hooks, tells, allowed⟩ := obtain_tells (n := n) setting.info
      (r.logger.filter (·.raisesCreate start.traceLimit)) start.ticketed
    rw [← asked] at tells
    exact ⟨hooks, (Told.trans (.of_hides (.of_journal_eq rfl)) tells).before hidden, allowed⟩

end Opening

end Statement

namespace Stage

/-- The stages whose failure is reported. Before the command is ready, it is enough that creation is
logged. -/
def reported (creates executes : Bool) : Stage → Bool
  | created => creates || executes
  | binding => creates || executes
  | stage => stage.commanded && executes

theorem commanded_of_opened {stage : Stage} (h : stage.opened = true) : stage.commanded = true := by
  cases stage <;> first | rfl | cases h

theorem reported_of_not_commanded {stage : Stage} (h : stage.commanded = false)
    (creates executes : Bool) : stage.reported creates executes = false := by
  cases stage <;> first | rfl | cases h

theorem reported_of_commanded {stage : Stage} (h : stage.commanded = true)
    (creates executes : Bool) :
    stage.reported creates executes =
      (if stage.prepares then creates || executes else executes) := by
  cases stage <;> first | rfl | cases h

end Stage

namespace Request

/-- Whether the logger of a request, if there is one, raises events of a kind. -/
def raises (gate : Logger σ → Option TraceLevel → Bool) (r : Request σ) (s : Session σ) : Bool :=
  r.logger.any (gate · s.traceLimit)

/-- An interceptor of this name is registered once, if there is a logger. -/
def Registers (n : String) (r : Request σ) : Prop :=
  ∀ l ∈ r.logger, CommandInterceptor.called n l.commandInterceptors = 1

theorem Registers.heard {n : String} {r : Request σ} (registers : r.Registers n)
    (gate : Logger σ → Option TraceLevel → Bool) (s : Session σ) :
    Logger.heard n (r.logger.filter (gate · s.traceLimit)) = (r.raises gate s).toNat := by
  unfold raises
  cases logger : r.logger with
  | none => rfl
  | some l =>
    have heard : Logger.heard n (some l) = 1 := registers l logger
    cases raised : gate l s.traceLimit with
    | false =>
      have unheard : Logger.heard n (none : Option (Logger σ)) = 0 := rfl
      simp [Option.filter, raised, unheard]
    | true => simp [Option.filter, raised, heard]

end Request

namespace Facet

/-- Disposed commands. -/
def disposals : Facet where
  sees
    | .native (.dispose _ _) => true
    | _ => false

end Facet

namespace Statement

variable [Driver σ] {n : String}

/-- What is told of the stages, up to where they end. -/
structure Progress (n : String) (shape : Shape σ α) (s : Statement) (mode : Mode) (r : Request σ)
    (start last : Session σ) (creation execution : List Hook) : Prop where
  told : start.Told n (creation ++ execution) last
  creation_ordered : creation.Sublist [.commandCreating, .commandCreated]
  creation_raised : creation ≠ [] → r.raises Logger.raisesCreate start = true
  execution_ordered : execution.Sublist [.executing shape.method, .executed shape.method]
  execution_raised : execution ≠ [] → r.raises Logger.raisesExecute start = true
  opened : execution ≠ [] → ∃ ready t,
    (s.opening shape.method mode r).observe start = (.ok ready, t) ∧ start.Told n creation t
  fetched : .executed shape.method ∈ execution → ∃ reached t before,
    (s.fetching shape mode r).observe start = (.ok reached, t) ∧ start.Told n before t ∧
      .executed shape.method ∉ before

/-- What is told of a failure: after it, and before the command is disposed. -/
structure FailureTold (n : String) (mode : Mode) (r : Request σ) (halt : Halt)
    (start failed last : Session σ) (failure : List Hook) : Prop where
  commanded : halt.command.isSome = halt.stage.commanded
  reported : failure =
    if halt.stage.reported (r.raises Logger.raisesCreate start)
        (r.raises Logger.raisesExecute start) then [.commandFailed] else []
  undisposed : ∀ c ∈ halt.command, ∃ t, failed.Told n failure t ∧ Hides .disposals start t ∧
    c.Released mode r.connection halt.stage.opened t last ∧ t.Told n [] last

/-- What one interceptor is told of a call, in order: of the creation of the command, of its
execution and of its failure. Of a failure it is told only where a stage fails, and then the call
fails as that stage does. -/
structure Chronicle (n : String) (shape : Shape σ α) (s : Statement) (mode : Mode) (r : Request σ)
    (start : Session σ) (call : Outcome β × Session σ) (creation execution failure : List Hook) :
    Prop where
  told : start.Told n (creation ++ execution ++ failure) call.2
  progress : s.Progress n shape mode r start ((s.stages shape mode r).observe start).2 creation
    execution
  failed : match (s.stages shape mode r).observe start with
    | (.ok _, _) => failure = []
    | (.error halt, t) =>
      call.1 = .error halt.failure ∧ FailureTold n mode r halt start t call.2 failure

omit [Driver σ] in
theorem heard_listener {r : Request σ} (registers : r.Registers n) (halt : Halt)
    (commanded : halt.stage.commanded = true) (start : Session σ) :
    Logger.heard n (halt.listener r start) =
      (halt.stage.reported (r.raises Logger.raisesCreate start)
        (r.raises Logger.raisesExecute start)).toNat := by
  rw [Stage.reported_of_commanded commanded]
  unfold Halt.listener
  cases halt.stage.prepares with
  | false => exact registers.heard Logger.raisesExecute start
  | true =>
    have either : r.raises (fun l limit => l.raisesCreate limit || l.raisesExecute limit) start =
        (r.raises Logger.raisesCreate start || r.raises Logger.raisesExecute start) := by
      unfold Request.raises
      cases r.logger <;> rfl
    rw [if_pos rfl, if_pos rfl, ← either]
    exact registers.heard (fun l limit => l.raisesCreate limit || l.raisesExecute limit) start

section Stages

variable {shape : Shape σ α} {mode : Mode} {r : Request σ}

theorem stages_halts (shape : Shape σ α) (s : Statement) (mode : Mode) (r : Request σ) :
    Staged.HaltsOnly (fun halt => halt.command.isSome = halt.stage.commanded)
      (s.stages shape mode r) := by
  refine ((s.entering_halts _ mode r).mono fun halt bare => ?_).bind fun setting =>
    ((s.preparing_halts r _).mono fun halt h => h.2.2).bind fun c =>
      (Staged.haltsOnly_during _ fun _ => rfl).bind fun _ =>
        ((running_halts shape mode _ _ c).mono fun halt late => ?_).bind fun _ =>
          Staged.haltsOnly_pure _
  · rw [bare.1, bare.2]
    rfl
  · rw [late.2, Stage.commanded_of_opened late.1]
    rfl

theorem hides_disposals (faithful : shape.Faithful) (s : Statement) (mode : Mode) (r : Request σ)
    (start : Session σ) :
    Hides .disposals start ((s.stages shape mode r).observe start).2 :=
  hides_stages (f := .disposals) (fun _ _ => hears_hides fun _ _ => rfl) (fun _ _ => rfl)
    (fun _ => rfl) (fun _ _ _ => rfl) faithful s mode r start

theorem failureTold (faithful : shape.Faithful) (registers : r.Registers n) (s : Statement)
    {start t last : Session σ} {halt : Halt}
    (halts : (s.stages shape mode r).observe start = (.error halt, t))
    (leaves : halt.leave mode (halt.listener r start) (r.info start.nextTicket shape.method mode)
      halt.stage.opened t = last) :
    ∃ failure, t.Told n failure last ∧ FailureTold n mode r halt start t last failure := by
  have commanded := stages_halts shape s mode r start halt t halts
  obtain ⟨stage, failure, command⟩ := halt
  cases command with
  | none =>
    cases leaves
    refine ⟨[], .of_hides (.of_journal_eq rfl), commanded, ?_, by simp⟩
    rw [Stage.reported_of_not_commanded commanded.symm]
    rfl
  | some c =>
    let listener := Halt.listener ⟨stage, failure, some c⟩ r start
    let info := r.info start.nextTicket shape.method mode
    have heard : Logger.heard n listener = _ :=
      heard_listener registers ⟨stage, failure, some c⟩ commanded.symm start
    have reports : Engine.Obeys (Hides (σ := σ) .disposals)
        (reportFailure mode listener info c failure.toError) :=
      obeys_reportFailure (hears_hides fun _ _ => rfl) (fun l _ => eachHook_hides l) c _
    have undisposed := hides_disposals faithful s mode r start
    rw [halts] at undisposed
    cases leaves
    obtain ⟨id, ms, entries, shows, rest, released⟩ := abandon_shows (Facet.told_focused n) mode
      listener info c failure.toError stage.opened t
    have tells := shows.told (Facet.reached_refines_told n)
    rw [Logger.filterMap_told_failure entries, heard] at tells
    refine ⟨_, tells.before rest, commanded, ?_, fun c' is => ?_⟩
    · cases stage.reported _ _ <;> rfl
    · cases is
      exact ⟨_, tells, undisposed.trans (reports t), released, .of_hides rest⟩

theorem sublist_pair_of_replicate {hooks : List Hook} {first second : Hook} {b : Bool}
    (allowed : hooks.Sublist (List.replicate b.toNat first ++ List.replicate b.toNat second)) :
    hooks.Sublist [first, second] ∧ (hooks ≠ [] → b = true) := by
  cases b with
  | false => simp [List.sublist_nil.1 allowed]
  | true => exact ⟨allowed, fun _ => rfl⟩

variable (faithful : shape.Faithful) (plain : shape.Plain) (registers : r.Registers n)
include faithful plain registers

theorem stages_progress (s : Statement) (mode : Mode) (start : Session σ) :
    ∃ creation execution, s.Progress n shape mode r start
      ((s.stages shape mode r).observe start).2 creation execution := by
  obtain ⟨creation, tells, allowed⟩ := opening_told n s shape.method mode r start
  rw [registers.heard Logger.raisesCreate start] at allowed
  obtain ⟨ordered, raised⟩ := sublist_pair_of_replicate allowed
  have same : ((s.stages shape mode r).observe start).2 =
      ((s.performing shape mode r).observe start).2 := by rw [performing_eq]
  rw [same]
  -- Without an open nothing is executed; with one, all that is told of execution comes after it.
  rcases opens : (s.opening shape.method mode r).observe start with
    ⟨failure | ⟨⟨info, logger⟩, c, opened⟩, t⟩
  all_goals rw [opens] at tells
  · refine ⟨creation, [], ?_, ordered, raised, List.nil_sublist _, ?_, ?_, ?_⟩
    · rw [performing_of_unopened opens, List.append_nil]
      exact tells
    all_goals simp
  · obtain ⟨execution, runs, executes, reaches⟩ := run_told plain faithful n mode logger info c t
    obtain ⟨rfl, rfl⟩ := opening_ok opens
    rw [registers.heard Logger.raisesExecute start] at executes
    obtain ⟨ordered', raised'⟩ := sublist_pair_of_replicate executes
    refine ⟨creation, execution, ?_, ordered, raised, ordered', raised', ?_, ?_⟩
    · rw [performing_of_opened opens]
      exact tells.trans runs
    · exact fun _ => ⟨_, t, opens, tells⟩
    · intro member
      obtain ⟨reached, u, before, reach, told, other⟩ := reaches member
      have fetches : (s.fetching shape mode r).observe start = (.ok (_, c, reached), u) :=
        (Attempt.observe_bind_ok opens _).trans (Attempt.observe_bind_ok reach _)
      refine ⟨_, u, creation ++ before, fetches, tells.trans told, ?_⟩
      rw [List.mem_append, not_or]
      refine ⟨fun member => ?_, other⟩
      have is := ordered.subset member
      simp at is

theorem chronicle_of_execute (s : Statement) {start : Session σ} {call : Outcome β × Session σ}
    (hidden : Hides (.told n) ((s.execute shape mode r).observe start).2 call.2)
    (fails : ∀ failure t, (s.execute shape mode r).observe start = (.error failure, t) →
      call = (.error failure, t)) :
    ∃ creation execution failure,
      s.Chronicle n shape mode r start call creation execution failure := by
  obtain ⟨creation, execution, progress⟩ := stages_progress faithful plain registers s mode start
  have told := progress.told
  have staged := execute_staged shape s mode r start
  rcases ends : (s.stages shape mode r).observe start with ⟨halt | done, t⟩
  all_goals rw [ends] at staged told
  · cases fails _ _ staged
    obtain ⟨failure, tells, failed⟩ := failureTold faithful registers s ends rfl
    refine ⟨creation, execution, failure, told.trans tells, progress, ?_⟩
    rw [ends]
    exact ⟨rfl, failed⟩
  · rw [staged] at hidden
    refine ⟨creation, execution, [], ?_, progress, ?_⟩
    · rw [List.append_nil]
      exact told.before hidden
    · rw [ends]

theorem executeOnce_chronicle (s : Statement) (mode : Mode) (start : Session σ) :
    ∃ creation execution failure, s.Chronicle n shape mode r start
      ((s.executeOnce shape mode r).observe start) creation execution failure :=
  chronicle_of_execute faithful plain registers s
    (Attempt.Obeys.after (hides_concluding (Facet.told_focused n) mode r) _ start)
    fun _ _ fails => Attempt.observe_bind_error fails _

omit faithful plain in
theorem executeReader_chronicle (command : Command σ) (mode : Mode) (start : Session σ) :
    ∃ creation execution failure, command.statement.Chronicle n .reader mode r start
      ((command.executeReader mode r start).1.1, (command.executeReader mode r start).2) creation
      execution failure := by
  have delivers := Attempt.Obeys.after (hides_delivering (Facet.told_focused n) mode r)
    (command.statement.execute .reader mode r) start
  refine chronicle_of_execute Shape.reader_faithful Shape.reader_plain registers command.statement
    (delivers.trans (hides_executeReader (Facet.told_focused n) mode r command start))
    fun failure t fails => ?_
  have opens : (command.statement.openCursor mode r).observe start = (.error failure, t) :=
    Attempt.observe_bind_error fails _
  rw [Command.executeReader_apply, opens]

end Stages

/-- Whether a stage fails whose failure is reported. -/
def reports (shape : Shape σ α) (s : Statement) (mode : Mode) (r : Request σ) (start : Session σ) :
    Bool :=
  match ((s.stages shape mode r).observe start).1 with
  | .ok _ => false
  | .error halt =>
    halt.stage.reported (r.raises Logger.raisesCreate start) (r.raises Logger.raisesExecute start)

theorem Chronicle.failure_eq {shape : Shape σ α} {s : Statement} {mode : Mode} {r : Request σ}
    {start : Session σ} {call : Outcome β × Session σ} {creation execution failure : List Hook}
    (h : s.Chronicle n shape mode r start call creation execution failure) :
    failure = if s.reports shape mode r start then [.commandFailed] else [] := by
  have failed := h.failed
  unfold reports
  rcases ends : (s.stages shape mode r).observe start with ⟨halt | done, t⟩
  all_goals rw [ends] at failed
  · exact failed.2.reported
  · exact failed

/-- Whatever is called, an interceptor that is registered once is told of it by the same rule. -/
theorem calls_chronicled (n : String) (r : Request σ) (registers : r.Registers n) (mode : Mode)
    (start : Session σ) :
    (∀ s : Statement,
      (∃ creation execution failure, s.Chronicle n .nonQuery mode r start
        ((s.executeNonQuery mode r).observe start) creation execution failure) ∧
      ∃ creation execution failure, s.Chronicle n .scalar mode r start
        ((s.executeScalar mode r).observe start) creation execution failure) ∧
    ∀ command : Command σ, ∃ creation execution failure,
      command.statement.Chronicle n .reader mode r start
        ((command.executeReader mode r start).1.1, (command.executeReader mode r start).2) creation
        execution failure :=
  ⟨fun s => ⟨
      executeOnce_chronicle Shape.nonQuery_faithful Shape.nonQuery_plain registers s mode start,
      executeOnce_chronicle Shape.scalar_faithful Shape.scalar_plain registers s mode start⟩,
    fun command => executeReader_chronicle registers command mode start⟩

omit [Driver σ] in
/-- An interceptor before one that fails is told that the command failed. -/
theorem calls_chronicled_of_failing_hook :
    let spoiled : ScriptedCommandHooks :=
      { nonQueryExecuting := { error := some (.custom "boom") } }
    let hooks : ScriptedCommandHooks := {}
    let logger : Logger Script :=
      ⟨{}, [hooks.interceptor "watch" .both, spoiled.interceptor "spoil" .both], []⟩
    let r : Request Script := { connection := ⟨0⟩, logger, detailedErrors := false }
    let s : Statement := ⟨"SELECT 1", []⟩
    let start : Session Script := { scene := ⟨{}, none⟩ }
    r.Registers "watch" ∧ ∃ creation execution, s.Chronicle "watch" .nonQuery .blocking r start
      ((s.executeNonQuery .blocking r).observe start) creation execution [.commandFailed] := by
  intro spoiled hooks logger r s start
  have registers : r.Registers "watch" := by
    intro l is
    cases is
    decide +kernel +zetaReduce
  have chronicles := calls_chronicled "watch" r registers .blocking start
  obtain ⟨creation, execution, failure, chronicle⟩ := (chronicles.1 s).1
  have reports : s.reports .nonQuery .blocking r start = true := by decide +kernel +zetaReduce
  have told := chronicle.failure_eq
  rw [if_pos reports] at told
  cases told
  exact ⟨registers, creation, execution, chronicle⟩

end Statement

end SqlExecution
