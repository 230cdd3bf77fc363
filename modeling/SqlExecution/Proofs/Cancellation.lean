import SqlExecution.Proofs.Approach

/-! Cancelled contexts. No asynchronous execution asks the driver to execute while its context is
cancelled, and one whose context is cancelled before that stops, releases what it has, and ends as
cancelled if nothing else fails. -/

namespace SqlExecution

variable {σ α β : Type}

open Session

namespace Facet

/-- The calls that execute a command. -/
def executeCalls : Facet where
  sees
    | .native (.execute _ _ _) => true
    | _ => false

theorem executeCalls_hooksOnly : executeCalls.HooksOnly fun _ => false := fun _ _ => rfl

theorem executeCalls_focused : executeCalls.Focused :=
  .of_hooksOnly (fun call unhooked => by cases call <;> first | rfl | cases unhooked)
    executeCalls_hooksOnly rfl

theorem execution_refines_executeCalls : execution.Refines executeCalls := by
  rintro ((_ | _ | _ | _ | _ | _ | _ | _ | _ | _ | _ | _ | _ | _) | d | record | w | text) seen <;>
    first | rfl | cases seen

theorem reached_refines_executeCalls : reached.Refines executeCalls := by
  rintro (call | d | record | w | text) seen <;> first | rfl | cases seen

end Facet

namespace Session

/-- From one moment to the other no command was executed in a cancelled context. -/
def Mindful (s t : Session σ) : Prop :=
  ∃ ms, s.Shows .executeCalls ms t ∧ ∀ m ∈ ms, m.scene.cancelled = none

/-- If the context was found cancelled from one moment on, it is cancelled in the end. -/
def StaysCancelled (s t : Session σ) : Prop :=
  ∃ added, t.journal = s.journal ++ added ∧
    ((s.scene.cancelled.isSome ∨ ∃ m ∈ added, m.scene.cancelled.isSome) → t.scene.cancelled.isSome)

variable {s t u : Session σ}

theorem StaysCancelled.trans (first : StaysCancelled s t) (second : StaysCancelled t u) :
    StaysCancelled s u := by
  obtain ⟨added, journal, stays⟩ := first
  obtain ⟨more, journal', stays'⟩ := second
  refine ⟨added ++ more, by rw [journal', journal, List.append_assoc], ?_⟩
  rintro (here | ⟨m, member, there⟩)
  · exact stays' (.inl (stays (.inl here)))
  · rcases List.mem_append.1 member with early | late
    · exact stays' (.inl (stays (.inr ⟨m, early, there⟩)))
    · exact stays' (.inr ⟨m, late, there⟩)

theorem staysCancelled_of_journal_eq (journal : t.journal = s.journal)
    (stays : s.scene.cancelled.isSome → t.scene.cancelled.isSome) : StaysCancelled s t :=
  ⟨[], by rw [journal, List.append_nil], fun found => stays (found.elim id (by simp))⟩

theorem staysCancelled_noted (e : Entry) (s : Session σ) : StaysCancelled s (s.noted e) :=
  ⟨_, rfl, fun found => found.elim id (by simp [noted])⟩

instance : Law (StaysCancelled : Session σ → Session σ → Prop) where
  trans := StaysCancelled.trans
  unseen journal scene _ _ := staysCancelled_of_journal_eq journal fun found => scene ▸ found
  traced record := staysCancelled_noted (.trace record)

end Session

/-- What is done in a cancelled context leaves it cancelled. -/
def Scene.Lasting (f : Scene σ → Scene σ) : Prop :=
  ∀ scene, scene.cancelled.isSome → (f scene).cancelled.isSome

theorem Session.lets_staysCancelled {f : Scene σ → Scene σ} (lasting : Scene.Lasting f) :
    Lets StaysCancelled f := fun s => staysCancelled_of_journal_eq rfl (lasting s.scene)

theorem Session.allows_staysCancelled [Driver σ] {call : NativeCall}
    (lasting : Scene.Lasting (σ := σ) call.effect) : Allows (σ := σ) StaysCancelled call :=
  ⟨fun s => staysCancelled_noted _ s, lets_staysCancelled lasting⟩

theorem Mode.checkpoint_async_of_some {cancelled : Option CancelReason} {reason : CancelReason}
    (h : cancelled = some reason) :
    Mode.async.checkpoint cancelled = .error (.cancelled reason) := by
  rw [h]
  rfl

theorem Mode.checkpoint_async_ok {cancelled : Option CancelReason}
    (goes : Mode.async.checkpoint cancelled = .ok ()) : cancelled = none := by
  cases cancelled with
  | none => rfl
  | some reason => cases goes

namespace Shape

variable {shape : Shape σ α} {c : NativeCommand} {event : CommandEvent}
  {is : List (CommandInterceptor σ)} {scene last : Scene σ} {ms : List (Moment σ)}

theorem supplies_mindful {o : Outcome α}
    (h : (shape.execution .async c event).Supplies is scene ms o last) :
    ∀ m ∈ ms, Facet.executeCalls.sees m.entry = true → m.scene.cancelled = none := by
  have hooks : ∀ (i : CommandInterceptor σ) r scene, Facet.executeCalls.sees
      ((shape.execution .async c event).before.notes i r scene) = true → scene.cancelled = none :=
    fun _ _ _ seen => by cases seen
  cases h with
  | refused fails => exact fails.forall_moments hooks
  | carried carries => exact carries.forall_moments hooks
  | stopped passes _ => exact passes.forall_moments hooks
  | performed passes goes _ =>
    refine List.forall_mem_append.2 ⟨passes.forall_moments hooks, ?_⟩
    rintro m member -
    rw [List.mem_singleton.1 member]
    exact Mode.checkpoint_async_ok goes

theorem governs_mindful {o : Outcome (Outcome α)}
    (h : (shape.execution .async c event).Governs is scene ms o last) :
    ∀ m ∈ ms, Facet.executeCalls.sees m.entry = true → m.scene.cancelled = none := by
  cases h with
  | unsupplied fails => exact supplies_mindful fails
  | supplied supplies concludes =>
    refine List.forall_mem_append.2 ⟨supplies_mindful supplies, ?_⟩
    exact concludes.forall_moments fun _ _ _ seen => by cases seen

end Shape

namespace Statement

variable [Driver σ] {shape : Shape σ α} {s : Statement} {mode : Mode} {r : Request σ}
  {start : Session σ}

theorem ExecutionGoverned.mindful {last : Session σ}
    {finish : Execution α → Session σ → Outcome β} {ends : Outcome β}
    (h : ExecutionGoverned shape s .async r start last finish ends) : start.Mindful last := by
  unfold ExecutionGoverned at h
  split at h
  · exact ⟨[], h.1.refine Facet.execution_refines_executeCalls, by simp⟩
  · obtain ⟨commandId, ms, result, governs, shows, _⟩ := h
    refine ⟨_, shows.refine Facet.execution_refines_executeCalls, fun m member => ?_⟩
    obtain ⟨noted, seen⟩ := List.mem_filter.1 member
    exact Shape.governs_mindful governs m noted seen

theorem execute_of_cancelled (shape : Shape σ α) {reason : CancelReason}
    (cancelled : start.scene.cancelled = some reason) (valid : s.validate r.values = .ok ()) :
    (s.execute shape .async r).observe start = (.error (.cancelled reason), start) := by
  have enters : (s.enter shape.method .async r).observe start =
      (.error (.cancelled reason), start) := by
    rw [enter_apply, valid]
    dsimp only
    rw [Mode.checkpoint_async_of_some cancelled]
  rw [execute_eq, Attempt.observe_bind_error enters]

theorem hides_executeCalls_opening (s : Statement) (method : Method) (mode : Mode) (r : Request σ) :
    Attempt.Obeys (Hides .executeCalls) (s.opening method mode r) := fun start => by
  simpa using (hides_opening s method mode r start).refine Facet.execution_refines_executeCalls

theorem obeys_offering {R : Session σ → Session σ → Prop} [Law R] (faithful : shape.Faithful)
    {logger : Option (Logger σ)} (hears : ∀ method, Hears R (.executing method))
    (hooks : ∀ l ∈ logger, l.EachHook (Lets R)) (mode : Mode) (info : ExecutionInfo)
    (c : NativeCommand) : Attempt.Obeys R (offering shape mode logger info c) := by
  refine (Attempt.obeys_checkpoint mode).bind fun _ => ?_
  cases logger with
  | none => exact .pure _
  | some l =>
    have around := fun i member => faithful.around ((hooks l rfl).command i member)
    exact (Attempt.obeys_lift info.obeys_event).bind fun event =>
      (Logger.obeys_executing (hears _) faithful.quiet around c).bind fun _ => .pure _

theorem openFor_stops {id : ConnectionId} {failure : Failure} {t : Session σ}
    (stops : (openFor mode id).observe start = (.error failure, t)) :
    mode.checkpoint t.scene.cancelled = .error failure ∨
      mode.checkpoint start.scene.cancelled = .ok () ∧
        (id.acquire mode).observe start = (.error failure, t) := by
  unfold openFor at stops
  rw [Attempt.observe_bind_apply, checkpoint_apply] at stops
  cases looked : mode.checkpoint start.scene.cancelled with
  | error halt =>
    rw [looked] at stops
    cases stops
    exact .inl looked
  | ok _ =>
    rw [looked] at stops
    exact .inr ⟨rfl, stops⟩

section Approaching

variable (faithful : shape.Faithful) (plain : shape.Plain) {failure : Failure}
include faithful plain

theorem performing_of_cancelled
    (looked : mode.checkpoint ((s.approaching shape mode r).observe start).2.scene.cancelled =
      .error failure) :
    ((s.performing shape mode r).observe start).1.isOk = false ∧
      Hides .executeCalls start ((s.performing shape mode r).observe start).2 := by
  have opening := hides_executeCalls_opening s shape.method mode r start
  unfold approaching at looked
  rcases opens : (s.opening shape.method mode r).observe start with
    ⟨failure' | ⟨setting, c, opened⟩, u⟩
  all_goals rw [opens] at opening
  · rw [performing_of_unopened opens]
    exact ⟨rfl, opening⟩
  · rw [Attempt.observe_bind_ok opens] at looked
    have approach := obeys_offering (R := Hides .executeCalls) faithful
      (fun _ => hears_of_hooksOnly Facet.executeCalls_hooksOnly rfl)
      (fun l (_ : l ∈ setting.logger) => eachHook_hides l) mode setting.info c u
    rw [performing_of_opened opens]
    rcases offers : (offering shape mode setting.logger setting.info c).observe u with
      ⟨failure' | offer, t⟩
    all_goals rw [offers] at approach looked
    · rw [run_apply, Attempt.observe_bind_error offers]
      exact ⟨rfl, opening.trans approach⟩
    · obtain ⟨stops, unseen⟩ := run_of_offered plain offers looked
      rw [stops]
      refine ⟨rfl, (opening.trans approach).trans ?_⟩
      simpa using unseen.refine Facet.reached_refines_executeCalls

/-- If nothing else fails before the native call, the execution ends for the reason that its context
was cancelled for, and abandons its command. -/
theorem execute_of_interrupted
    (entered : ((s.enter shape.method mode r).observe start).1.isOk = true)
    (itself : ∀ failure, ¬ Fails shape s mode r start failure)
    (looked : mode.checkpoint ((s.approaching shape mode r).observe start).2.scene.cancelled =
      .error failure) :
    ∃ c opened v, Hides .failures start v ∧ (s.execute shape mode r).observe start =
      (.error failure, (abandon mode (r.logger.filter (·.raisesExecute start.traceLimit))
        (r.info start.nextTicket shape.method mode) c failure.toError opened v).2) := by
  have hidden : Hides .failures start ((s.performing shape mode r).observe start).2 := by
    rw [performing_eq]
    exact hides_stages (fun _ => hears_of_hooksOnly Facet.failures_hooksOnly)
      (fun _ _ => rfl) (fun _ => rfl) (fun _ _ _ => rfl) faithful s mode r start
  have course := s.execute_course shape mode r start
  unfold approaching at looked
  rcases ends : (s.execute shape mode r).observe start with ⟨o, last⟩
  rw [ends] at course
  cases course with
  | unentered stops =>
    rw [stops] at entered
    cases entered
  | unprepared enters stops =>
    obtain ⟨w, fails⟩ := stops.unequipped_apply
    exact absurd (.command enters fails) (itself _)
  | @unopened setting c failure' t u v enters prepares stops =>
    obtain ⟨info, logger, -⟩ := enter_ok enters
    have opens := opening_of_prepared enters prepares stops
    rw [performing_of_unopened opens] at hidden
    rw [Attempt.observe_bind_error opens] at looked
    refine ⟨c, false, v, hidden, ?_⟩
    rcases openFor_stops stops with cancelled | ⟨goes, fails⟩
    · cases looked.symm.trans cancelled
      rw [info, logger]
    · exact absurd (.connection enters prepares.equipped_apply goes fails) (itself _)
  | @unperformed setting c opened failure' t u v w enters prepares opens stops =>
    obtain ⟨info, logger, -⟩ := enter_ok enters
    have opens := opening_of_prepared enters prepares opens
    rw [performing_of_opened opens, stops] at hidden
    rw [Attempt.observe_bind_ok opens] at looked
    refine ⟨c, true, w, hidden, ?_⟩
    rcases offers : (offering shape mode setting.logger setting.info c).observe v with
      ⟨halt | offer, x⟩
    all_goals rw [offers] at looked
    · rw [run_apply, Attempt.observe_bind_error offers] at stops
      cases stops
      rcases offering_stops plain offers with cancelled | ⟨l, raised, fails⟩
      · cases looked.symm.trans cancelled
        rw [info, logger]
      · exact absurd (.hook opens raised fails) (itself _)
    · have halts := (run_of_offered plain offers looked).1
      rw [stops] at halts
      cases halts
      rw [info, logger]
  | @performed setting c opened output t u v _ enters prepares opens performs =>
    have opens := opening_of_prepared enters prepares opens
    rw [Attempt.observe_bind_ok opens] at looked
    rcases offers : (offering shape mode setting.logger setting.info c).observe v with
      ⟨halt | offer, x⟩
    all_goals rw [offers] at looked
    · rw [run_apply, Attempt.observe_bind_error offers] at performs
      cases performs
    · have halts := (run_of_offered plain offers looked).1
      rw [performs] at halts
      cases halts

end Approaching

/-- The call ended for the reason that its context was cancelled for. Whoever hears of failures, and
nobody else, was told so. -/
def Interrupted (method : Method) (r : Request σ) (start : Session σ)
    (call : Outcome β × Session σ) : Prop :=
  ∃ reason c e id ms, call.1 = .error (.cancelled reason) ∧ e.isCancelled = true ∧
    start.Shows .failures ms call.2 ∧ ms.map (·.entry) =
      (Logger.hearers (r.logger.filter (·.raisesExecute start.traceLimit))).map
        (.hook ∘ Logger.failure .async c ((r.info start.nextTicket method .async).eventAs id) e)

/-- What an asynchronous call makes of a context that is cancelled from the start, or before the
driver is asked to execute. -/
structure HeedsCancellation (shape : Shape σ α) (s : Statement) (r : Request σ) (start : Session σ)
    (call : Outcome β × Session σ) : Prop where
  mindful : start.Mindful call.2
  entry (reason : CancelReason) (cancelled : start.scene.cancelled = some reason)
    (valid : s.validate r.values = .ok ()) : call = (.error (.cancelled reason), start)
  stops (cancelled : ((s.approaching shape .async r).observe start).2.scene.cancelled.isSome) :
    call.1.isOk = false ∧ Hides .executeCalls start call.2 ∧
      Settled .async r.connection ((s.creation shape.method .async r).observe start).1
        ((s.opening shape.method .async r).observe start).1.isOk start call.2
  interrupted (entered : ((s.enter shape.method .async r).observe start).1.isOk = true)
    (cancelled : ((s.approaching shape .async r).observe start).2.scene.cancelled.isSome)
    (itself : ∀ failure, ¬ s.Fails shape .async r start failure) :
    Interrupted shape.method r start call
  /-- So a context that is cancelled at any time on the way is cancelled where that counts. -/
  lasts (driver : ∀ call : NativeCall, Scene.Lasting (σ := σ) call.effect)
    (hooks : ∀ l ∈ r.logger, l.EachHook Scene.Lasting) :
    StaysCancelled start ((s.approaching shape .async r).observe start).2

section Calls

variable {shape : Shape σ α} {s : Statement} {r : Request σ} {start : Session σ}

theorem approaching_staysCancelled (faithful : shape.Faithful)
    (driver : ∀ call : NativeCall, Scene.Lasting (σ := σ) call.effect)
    (hooks : ∀ l ∈ r.logger, l.EachHook Scene.Lasting) (mode : Mode) :
    StaysCancelled start ((s.approaching shape mode r).observe start).2 := by
  have lets : ∀ l ∈ r.logger, l.EachHook (Lets StaysCancelled) := fun l asked =>
    (hooks l asked).mono fun _ => lets_staysCancelled
  have hears : ∀ hook, Hears (StaysCancelled (σ := σ)) hook := fun _ _ _ => staysCancelled_noted _
  have opens : StaysCancelled start ((s.opening shape.method mode r).observe start).2 :=
    obeys_opening
      (fun _ => obeys_yielded (allows_staysCancelled (driver _)) (hears _) (hears _) lets)
      (ConnectionId.obeys_acquire (allows_staysCancelled (driver _)) fun _ _ =>
        staysCancelled_of_journal_eq rfl id) s shape.method start
  unfold approaching
  rcases ends : (s.opening shape.method mode r).observe start
    with ⟨failure | ⟨setting, c, opened⟩, u⟩
  all_goals rw [ends] at opens
  · rw [Attempt.observe_bind_error ends]
    exact opens
  · rw [Attempt.observe_bind_ok ends]
    have raised : ∀ l ∈ setting.logger, l.EachHook (Lets StaysCancelled) := by
      rw [(opening_ok ends).2]
      exact fun l member => lets l (Option.mem_filter_iff.1 member).1
    exact opens.trans (obeys_offering faithful (fun _ => hears _) raised mode setting.info c u)

theorem HeedsCancellation.of_execute (faithful : shape.Faithful) (plain : shape.Plain)
    {rest : Execution α → Attempt σ β}
    (hides : ∀ execution, Attempt.Obeys (Hides .execution) (rest execution))
    (settles : ∀ failure t,
      (s.execute shape .async r >>= rest).observe start = (.error failure, t) →
      Settled .async r.connection ((s.creation shape.method .async r).observe start).1
        ((s.opening shape.method .async r).observe start).1.isOk start t) :
    HeedsCancellation shape s r start ((s.execute shape .async r >>= rest).observe start) where
  mindful := (executionGoverned plain s .async r start hides).mindful
  entry reason cancelled valid :=
    Attempt.observe_bind_error (execute_of_cancelled shape cancelled valid) rest
  stops cancelled := by
    obtain ⟨reason, cancelled⟩ := Option.isSome_iff_exists.1 cancelled
    obtain ⟨fails, hidden⟩ := performing_of_cancelled faithful plain
      (Mode.checkpoint_async_of_some cancelled)
    have abandoned := execute_after (R := Hides .executeCalls)
      (fun logger info c e opened => Facet.executeCalls_focused.hides_abandon
        (hears_of_hooksOnly Facet.executeCalls_hooksOnly rfl) .async logger info c e opened)
      shape s r start
    have outcome := execute_outcome shape s .async r start
    rcases ends : (s.execute shape .async r).observe start with ⟨failure | execution, t⟩
    all_goals rw [ends] at abandoned outcome
    · have call := Attempt.observe_bind_error ends rest
      rw [call]
      exact ⟨rfl, hidden.trans abandoned, settles failure t call⟩
    · rw [← outcome] at fails
      cases fails
  interrupted entered cancelled itself := by
    obtain ⟨reason, cancelled⟩ := Option.isSome_iff_exists.1 cancelled
    obtain ⟨c, opened, v, hidden, ends⟩ := execute_of_interrupted faithful plain entered itself
      (Mode.checkpoint_async_of_some cancelled)
    obtain ⟨id, ms, entries, shows, after, _⟩ := abandon_shows Facet.failures_focused .async
      (r.logger.filter (·.raisesExecute start.traceLimit))
      (r.info start.nextTicket shape.method .async) c (Failure.cancelled reason).toError opened v
    rw [Attempt.observe_bind_error ends]
    refine ⟨reason, c, _, id, ms, rfl, Error.isCancelled_cancelled _, ?_, entries⟩
    have told : ∀ m ∈ ms, Facet.failures.sees m.entry = true := by
      intro m member
      have listed : m.entry ∈ ms.map (·.entry) := List.mem_map_of_mem member
      rw [entries] at listed
      obtain ⟨i, _, same⟩ := List.mem_map.1 listed
      rw [← same]
      rfl
    have reports := shows.refine Facet.reached_refines_failures
    rw [List.filter_eq_self.2 told] at reports
    exact (Shows.after hidden reports).before after
  lasts driver hooks := approaching_staysCancelled faithful driver hooks .async

theorem HeedsCancellation.handOver {γ : Type} {call : Outcome β × Session σ}
    {call' : Outcome γ × Session σ} (heeds : HeedsCancellation shape s r start call)
    (hidden : Hides .executeCalls call.2 call'.2)
    (failed : ∀ failure t, call = (.error failure, t) → call' = (.error failure, t)) :
    HeedsCancellation shape s r start call' where
  mindful := by
    obtain ⟨ms, shows, each⟩ := heeds.mindful
    exact ⟨ms, shows.before hidden, each⟩
  entry reason cancelled valid := failed _ _ (heeds.entry reason cancelled valid)
  stops cancelled := by
    obtain ⟨fails, unseen, settled⟩ := heeds.stops cancelled
    rcases call with ⟨failure | b, t⟩
    · rw [failed failure t rfl]
      exact ⟨rfl, unseen, settled⟩
    · cases fails
  interrupted entered cancelled itself := by
    obtain ⟨reason, c, e, id, ms, ends, told⟩ := heeds.interrupted entered cancelled itself
    rcases call with ⟨failure | b, t⟩
    all_goals cases ends
    rw [failed _ t rfl]
    exact ⟨reason, c, e, id, ms, rfl, told⟩
  lasts := heeds.lasts

theorem executeOnce_heedsCancellation (faithful : shape.Faithful) (plain : shape.Plain)
    (s : Statement) (r : Request σ) (start : Session σ) :
    HeedsCancellation shape s r start ((s.executeOnce shape .async r).observe start) := by
  have settled := executeOnce_settled faithful s .async r start
  rw [executeOnce_eq] at settled ⊢
  refine .of_execute faithful plain (hides_concluding Facet.execution_focused .async r) ?_
  intro failure t fails
  rwa [fails] at settled

theorem executeReader_heedsCancellation (command : Command σ) (r : Request σ) (start : Session σ) :
    HeedsCancellation .reader command.statement r start
      ((command.executeReader .async r start).1.1, (command.executeReader .async r start).2) := by
  have opens : HeedsCancellation .reader command.statement r start
      ((command.statement.openCursor .async r).observe start) :=
    .of_execute Shape.reader_faithful Shape.reader_plain
      (hides_delivering Facet.execution_focused .async r) fun _ _ fails => openCursor_settled fails
  refine opens.handOver (hides_executeReader Facet.executeCalls_focused .async r command start) ?_
  intro failure t fails
  rw [Command.executeReader_apply, fails]

/-- Every asynchronous call heeds cancellation. -/
theorem calls_heed_cancellation (start : Session σ) :
    (∀ (s : Statement) (r : Request σ),
      HeedsCancellation .nonQuery s r start ((s.executeNonQuery .async r).observe start) ∧
      HeedsCancellation .scalar s r start ((s.executeScalar .async r).observe start)) ∧
    ∀ (command : Command σ) (r : Request σ),
      HeedsCancellation .reader command.statement r start
        ((command.executeReader .async r start).1.1, (command.executeReader .async r start).2) :=
  ⟨fun s r => ⟨executeOnce_heedsCancellation Shape.nonQuery_faithful Shape.nonQuery_plain s r start,
      executeOnce_heedsCancellation Shape.scalar_faithful Shape.scalar_plain s r start⟩,
    fun command r => executeReader_heedsCancellation command r start⟩

end Calls

end Statement

end SqlExecution
