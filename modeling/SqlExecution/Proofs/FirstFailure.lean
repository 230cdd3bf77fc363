import SqlExecution.Proofs.GovernedCalls

/-! How a call ends whose stages do not all succeed: as the first of them that fails, whatever fails
after that in releasing the command. Who hears of the failure hears of that very one. -/

namespace SqlExecution

variable {σ α β : Type}

open Session

namespace Stage

/-- The stages in order, up to those that hand the result over. -/
def order : List Stage :=
  [validation, entry, creating, requesting, created, binding, opening, starting, executing, calling,
    native, executed, buffering, disposing, closing]

end Stage

namespace Staged

/-- The steps belong to these stages, in this order. A step that belongs to none cannot fail. -/
inductive Along : {α : Type} → List Stage → Staged σ α → Prop where
  | free {α : Type} (m : Engine σ α) : Along [] (lift m)
  | step {α : Type} (stage : Stage) (command : Option NativeCommand) (m : Attempt σ α) :
      Along [stage] (m.during stage command)
  | bind {α β : Type} {first rest : List Stage} {m : Staged σ α} {f : α → Staged σ β}
      (before : Along first m) (after : ∀ a, Along rest (f a)) : Along (first ++ rest) (m >>= f)
  | skip {α : Type} {some all : List Stage} {m : Staged σ α} (ordered : some.Sublist all)
      (along : Along some m) : Along all m

theorem Along.pure (a : α) : Along [] (Pure.pure a : Staged σ α) := .free (Pure.pure a)

end Staged

namespace Hook

def ofFailure : Hook → Bool
  | commandFailed => true
  | _ => false

end Hook

namespace Facet

/-- The reports of failed commands. -/
def failures : Facet where
  sees
    | .hook d => d.hook.ofFailure
    | _ => false

theorem failures_hooksOnly : failures.HooksOnly Hook.ofFailure := fun _ other => other

theorem failures_focused : failures.Focused :=
  .of_hooksOnly (fun _ _ => rfl) failures_hooksOnly rfl

theorem reached_refines_failures : reached.Refines failures := by
  rintro (call | d | record | w | text) seen <;> first | rfl | cases seen

end Facet

namespace Logger

/-- What an interceptor is told of a failure. -/
def failure (mode : Mode) (c : NativeCommand) (event : CommandEvent) (e : Error)
    (i : CommandInterceptor σ) : Delivery :=
  ⟨i.name, i.coverage, .commandFailed, mode, .command event (some c), .given (.error e)⟩

theorem commandFailed_shows (l : Logger σ) (mode : Mode) (c : NativeCommand) (event : CommandEvent)
    (e : Error) (s : Session σ) :
    ∃ ms, s.Shows .reached ms (l.commandFailed mode c event e s).2 ∧
      ms.map (·.entry) = l.commandInterceptors.map (.hook ∘ failure mode c event e) := by
  have traced := Engine.obeys_trace (R := Hides .reached) .error Trace.commandTarget
    ("Failed executing DbCommand " ++ Trace.elapsed ++ " [" ++ l.describe c ++ "]\n" ++ c.text)
    (Trace.commandFields event ++ [Trace.methodField event, Trace.errorField e]) s
  obtain ⟨told, _⟩ := Engine.forM_watching (failure mode c event e) (·.failed mode c event e)
    l.commandInterceptors _
  exact ⟨_, .after traced told, entries_watching _ _ _ _⟩

end Logger

namespace Statement

theorem reportFailure_shows (mode : Mode) (logger : Option (Logger σ)) (info : ExecutionInfo)
    (c : NativeCommand) (e : Error) (s : Session σ) :
    ∃ id ms, s.Shows .reached ms (reportFailure mode logger info c e s).2 ∧
      ms.map (·.entry) =
        (Logger.hearers logger).map (.hook ∘ Logger.failure mode c (info.eventAs id) e) := by
  obtain ⟨id, t, identifies, unnoticed⟩ := info.event_apply s
  refine ⟨id, ?_⟩
  cases logger with
  | none => exact ⟨[], .of_journal_eq rfl, rfl⟩
  | some l =>
    dsimp only [reportFailure]
    rw [Engine.bind_apply, identifies]
    obtain ⟨ms, shows, entries⟩ := l.commandFailed_shows mode c (info.eventAs id) e t
    exact ⟨ms, .after (unnoticed.hidden _) shows, entries⟩

theorem abandon_shows [Driver σ] {f : Facet} (focused : f.Focused) (mode : Mode)
    (logger : Option (Logger σ)) (info : ExecutionInfo) (c : NativeCommand) (e : Error)
    (opened : Bool) (s : Session σ) :
    ∃ (id : CommandId) (ms : List (Moment σ)), ms.map (·.entry) =
        (Logger.hearers logger).map (.hook ∘ Logger.failure mode c (info.eventAs id) e) ∧
      s.Shows .reached ms (reportFailure mode logger info c e s).2 ∧
      Hides f (reportFailure mode logger info c e s).2 (abandon mode logger info c e opened s).2 ∧
      c.Released mode info.connection opened (reportFailure mode logger info c e s).2
        (abandon mode logger info c e opened s).2 := by
  obtain ⟨id, ms, shows, entries⟩ := reportFailure_shows mode logger info c e s
  rw [abandon_eq, Engine.bind_apply]
  have hidden : Engine.Obeys (Hides (σ := σ) f) (discharge mode info c opened) :=
    obeys_discharge focused.discards (fun _ => focused.hides_releaseOutcome mode _) c
  exact ⟨id, ms, entries, shows, hidden _, discharge_released mode info c opened _⟩

section Along

open Staged

theorem entering_along (s : Statement) (method : Method) (mode : Mode) (r : Request σ) :
    Along [.validation, .entry] (s.entering method mode r) :=
  .skip (by decide) (.bind (.step _ _ _) fun _ => .bind (.step _ _ _) fun _ =>
    .bind (.free _) fun _ => .bind (.free _) fun _ => .pure _)

theorem running_along (shape : Shape σ α) (mode : Mode) (logger : Option (Logger σ))
    (info : ExecutionInfo) (c : NativeCommand) :
    Along [.starting, .executing, .calling, .native, .executed]
      (running shape mode logger info c) := by
  unfold running
  cases logger with
  | none => exact .skip (by decide) (.bind (.step _ _ _) fun _ => .step _ _ _)
  | some l =>
    refine .skip (by decide) (.bind (.step _ _ _) fun _ => .bind (.free _) fun event =>
      .bind (.step _ _ _) fun offered => show Along [.calling, .native, .executed] _ from ?_)
    cases offered with
    | hasResult a => exact .skip (by decide) (.bind (.pure a) fun _ => .step _ _ _)
    | noResult =>
      exact .skip (by decide) (.bind (.step _ _ _) fun _ => .bind (.step _ _ _) fun _ =>
        .step _ _ _)

variable [Driver σ]

theorem requesting_along (info : ExecutionInfo) (logger : Option (Logger σ)) :
    Along [.creating, .requesting, .created] (requesting info logger) := by
  unfold requesting
  cases logger with
  | none => exact .skip (by decide) (.step _ _ _)
  | some l =>
    have concludes : ∀ event c, Along [.created] (do
        let hooked ← Staged.lift (l.commandCreated event c)
        (Attempt.ofResult hooked.2).during .created (some hooked.1)
        return hooked.1 : Staged σ NativeCommand) := fun event c =>
      .skip (by decide) (.bind (.free _) fun _ => .bind (.step _ _ _) fun _ => .pure _)
    refine .skip (by decide) (.bind (.free _) fun event => .bind (.step _ _ _)
      fun offered => show Along [.requesting, .created] _ from ?_)
    cases offered with
    | hasResult c => exact .skip (by decide) (.bind (.pure c) (concludes event))
    | noResult => exact .skip (by decide) (.bind (.step _ _ _) (concludes event))

theorem preparing_along (s : Statement) (r : Request σ) (info : ExecutionInfo) :
    Along [.creating, .requesting, .created, .binding] (s.preparing r info) :=
  .skip (by decide) (.bind (.free get) fun _ => .bind (requesting_along info _) fun _ =>
    .bind (.free get) fun _ => .bind (.step _ _ _) fun _ => .pure _)

theorem stages_along (shape : Shape σ α) (s : Statement) (mode : Mode) (r : Request σ) :
    Along [.validation, .entry, .creating, .requesting, .created, .binding, .opening, .starting,
      .executing, .calling, .native, .executed] (s.stages shape mode r) :=
  .skip (by decide) (.bind (s.entering_along _ mode r) fun _ =>
    .bind (s.preparing_along r _) fun _ => .bind (.step _ _ _) fun _ =>
      .bind (running_along shape mode _ _ _) fun _ => .pure _)

end Along

section Calls

variable [Driver σ]

/-- Handing a value over, in its stages: the command is disposed and then its open given back. -/
def concludingStages (mode : Mode) (r : Request σ) (execution : Execution α) : Staged σ α := do
  Attempt.during .disposing none (ExceptT.mk (execution.command.discard mode))
  Attempt.during .closing none (ExceptT.mk (r.connection.releaseOutcome mode))
  return execution.output

def onceStages (shape : Shape σ α) (s : Statement) (mode : Mode) (r : Request σ) : Staged σ α := do
  concludingStages mode r (← s.stages shape mode r)

/-- Handing a reader over, in its stages: with declared columns, the results are loaded before. -/
def deliveringStages (mode : Mode) (r : Request σ) (execution : Execution Cursor) :
    Staged σ (DataReader σ) :=
  match r.columns with
  | none =>
    return .ofBinding ⟨execution.command, .native execution.output, r.logger, execution.info⟩
  | some columns => do
    let buffer ← (execution.output.load mode columns r.detailedErrors).during .buffering none
    return .ofBinding ⟨execution.command, .buffered buffer, r.logger, execution.info⟩

def readerStages (s : Statement) (mode : Mode) (r : Request σ) : Staged σ (DataReader σ) := do
  deliveringStages mode r (← s.stages .reader mode r)

/-- A call that starts here ends as its stages do: it fails as the first of them that fails, and
that failure is what is reported, if any is. -/
structure EndsAs (stages : Staged σ β) (start : Session σ) (call : Outcome β × Session σ) :
    Prop where
  ordered : stages.Along Stage.order
  outcome : call.1 = (stages.observe start).1.mapError Halt.failure
  blocking : Outcome.completeBlocking (some call.1) =
    (stages.observe start).1.mapError fun halt => halt.failure.toError
  reported : ∃ ms, start.Shows .failures ms call.2 ∧ ∀ m ∈ ms, ∃ halt d,
    (stages.observe start).1 = .error halt ∧ m.entry = .hook d ∧
      d.input = .given (.error halt.failure.toError)

theorem onceStages_along (shape : Shape σ α) (s : Statement) (mode : Mode) (r : Request σ) :
    (s.onceStages shape mode r).Along Stage.order :=
  .skip (by decide) (.bind (s.stages_along shape mode r) fun _ => .bind (.step _ _ _) fun _ =>
    .bind (.step _ _ _) fun _ => .pure _)

theorem readerStages_along (s : Statement) (mode : Mode) (r : Request σ) :
    (s.readerStages mode r).Along Stage.order := by
  have delivers : ∀ execution, Staged.Along [.buffering] (deliveringStages mode r execution) := by
    intro execution
    unfold deliveringStages
    cases r.columns with
    | none => exact .skip (by decide) (.pure _)
    | some columns => exact .skip (by decide) (.bind (.step _ _ _) fun _ => .pure _)
  exact .skip (by decide) (.bind (s.stages_along .reader mode r) delivers)

theorem hides_stages {f : Facet}
    (hears : ∀ hook, hook.ofFailure = false → Hears (Hides (σ := σ) f) hook)
    (opens : ∀ id mode, f.sees (.native (.openConnection id mode)) = false)
    (creates : ∀ id, f.sees (.native (.createCommand id)) = false)
    (works : ∀ method c mode, f.sees (.native (.execute method c mode)) = false)
    {shape : Shape σ α} (faithful : shape.Faithful) (s : Statement) (mode : Mode) (r : Request σ)
    (start : Session σ) : Hides f start ((s.stages shape mode r).observe start).2 := by
  have yields : ∀ info, Attempt.Obeys (Hides (σ := σ) f) (yielded r info) := fun info =>
    obeys_yielded (allows_hides (creates _)) (hears _ rfl) (hears _ rfl) fun l _ => eachHook_hides l
  have takes : Attempt.Obeys (Hides (σ := σ) f) (r.connection.acquire mode) :=
    ConnectionId.obeys_acquire (allows_hides (opens _ _)) fun _ _ => .of_journal_eq rfl
  have performs : Attempt.Obeys (Hides f) (s.performing shape mode r) :=
    (obeys_opening yields takes s shape.method).bind fun (setting, c, _) =>
      (obeys_run faithful (fun _ => hears _ rfl) (fun _ => hears _ rfl)
        (fun l _ => eachHook_hides l) (allows_hides (works _ _ _))).bind fun _ => .pure _
  have hidden := performs start
  rwa [performing_eq] at hidden

/-- Of an execution, nothing but what is reported in the end is seen of failures. -/
theorem execute_reported {shape : Shape σ α} (faithful : shape.Faithful) (s : Statement)
    (mode : Mode) (r : Request σ) (start : Session σ) :
    ∃ ms, start.Shows .failures ms ((s.execute shape mode r).observe start).2 ∧
      ∀ m ∈ ms, ∃ halt d, ((s.stages shape mode r).observe start).1 = .error halt ∧
        m.entry = .hook d ∧ d.input = .given (.error halt.failure.toError) := by
  have hidden := hides_stages (f := .failures)
    (fun _ => hears_of_hooksOnly Facet.failures_hooksOnly)
    (fun _ _ => rfl) (fun _ => rfl) (fun _ _ _ => rfl) faithful s mode r start
  rw [execute_staged]
  generalize (s.stages shape mode r).observe start = staged at hidden ⊢
  obtain ⟨⟨stage, failure, command⟩ | execution, v⟩ := staged
  · cases command with
    | none => exact ⟨[], hidden, by simp⟩
    | some c =>
      obtain ⟨id, ms, entries, shows, rest, _⟩ := abandon_shows Facet.failures_focused
        mode (Halt.listener ⟨stage, failure, some c⟩ r start)
        (r.info start.nextTicket shape.method mode) c failure.toError stage.opened v
      have reports := shows.refine Facet.reached_refines_failures
      refine ⟨_, (hidden.trans reports).before rest, fun m member => ?_⟩
      have told : m.entry ∈ ms.map (·.entry) := List.mem_map_of_mem (List.mem_filter.1 member).1
      rw [entries] at told
      obtain ⟨i, _, same⟩ := List.mem_map.1 told
      exact ⟨_, _, rfl, same.symm, rfl⟩
  · exact ⟨[], hidden, by simp⟩

theorem EndsAs.of_execute {shape : Shape σ α} (faithful : shape.Faithful) {s : Statement}
    {mode : Mode} {r : Request σ} {start : Session σ} {later : Execution α → Staged σ β}
    {rest : Execution α → Attempt σ β}
    (along : (s.stages shape mode r >>= later).Along Stage.order)
    (same : ∀ execution v, ((rest execution).observe v).1 =
      ((later execution).observe v).1.mapError Halt.failure)
    (hides : ∀ execution, Attempt.Obeys (Hides .failures) (rest execution)) :
    EndsAs (s.stages shape mode r >>= later) start
      ((s.execute shape mode r >>= rest).observe start) := by
  have outcome : ((s.execute shape mode r >>= rest).observe start).1 =
      ((s.stages shape mode r >>= later).observe start).1.mapError Halt.failure := by
    rw [Attempt.observe_bind_apply, Staged.observe_bind_apply, execute_staged]
    rcases (s.stages shape mode r).observe start with ⟨halt | execution, v⟩
    · rfl
    · exact same execution v
  refine ⟨along, outcome, ?_, ?_⟩
  · rw [outcome]
    rcases ((s.stages shape mode r >>= later).observe start).1 with halt | b <;> rfl
  · obtain ⟨ms, shows, told⟩ := execute_reported faithful s mode r start
    refine ⟨ms, shows.before (Attempt.Obeys.after hides _ start), fun m member => ?_⟩
    obtain ⟨halt, d, halts, delivered⟩ := told m member
    refine ⟨halt, d, ?_, delivered⟩
    rw [Staged.observe_bind_apply]
    rcases staged : (s.stages shape mode r).observe start with ⟨halt' | execution, v⟩
    all_goals
      rw [staged] at halts
      cases halts
    rfl

omit [Driver σ] in
theorem EndsAs.before {stages : Staged σ β} {start last : Session σ} {call : Outcome β × Session σ}
    (ends : EndsAs stages start call) (hidden : Hides .failures call.2 last) :
    EndsAs stages start (call.1, last) := by
  obtain ⟨ms, shows, told⟩ := ends.reported
  exact ⟨ends.ordered, ends.outcome, ends.blocking, ms, shows.before hidden, told⟩

theorem concluding_stages (mode : Mode) (r : Request σ) (execution : Execution α) (v : Session σ) :
    ((concluding mode r execution).observe v).1 =
      ((concludingStages mode r execution).observe v).1.mapError Halt.failure := by
  -- Handing a value over fails as releasing the command does: disposing comes before closing.
  have cleans : (execution.command.cleanUp mode r.connection v).1 =
      (execution.command.discard mode v).1.andThen
        (r.connection.releaseOutcome mode (execution.command.discard mode v).2).1 := rfl
  have discards : Attempt.observe (ExceptT.mk (execution.command.discard mode)) v =
      execution.command.discard mode v := rfl
  unfold concludingStages
  rw [concluding_apply, concluded, cleans, Staged.observe_bind_apply, Staged.during_apply, discards]
  rcases execution.command.discard mode v with ⟨failure | _, w⟩
  · rfl
  · have releases : Attempt.observe (ExceptT.mk (r.connection.releaseOutcome mode)) w =
        r.connection.releaseOutcome mode w := rfl
    dsimp only [mapError_ok]
    rw [Staged.observe_bind_apply, Staged.during_apply, releases]
    rcases r.connection.releaseOutcome mode w with ⟨failure | _, x⟩ <;> rfl

theorem executeOnce_endsAs {shape : Shape σ α} (faithful : shape.Faithful) (s : Statement)
    (mode : Mode) (r : Request σ) (start : Session σ) :
    EndsAs (s.onceStages shape mode r) start ((s.executeOnce shape mode r).observe start) :=
  EndsAs.of_execute faithful (s.onceStages_along shape mode r) (concluding_stages mode r)
    (hides_concluding Facet.failures_focused mode r)

theorem delivering_stages (mode : Mode) (r : Request σ) (execution : Execution Cursor)
    (v : Session σ) :
    ((delivering mode r execution).observe v).1.map .ofBinding =
      ((deliveringStages mode r execution).observe v).1.mapError Halt.failure := by
  unfold deliveringStages
  rw [delivering_apply, delivered]
  cases r.columns with
  | none => rfl
  | some columns =>
    dsimp only
    rw [Staged.observe_bind_apply, Staged.during_apply]
    rcases (execution.output.load mode columns r.detailedErrors).observe v with ⟨_ | _, _⟩ <;> rfl

theorem openCursor_endsAs (s : Statement) (mode : Mode) (r : Request σ) (start : Session σ) :
    EndsAs (s.readerStages mode r) start
      (((s.openCursor mode r).observe start).1.map .ofBinding,
        ((s.openCursor mode r).observe start).2) := by
  let bind (execution : Execution Cursor) : Attempt σ (DataReader σ) :=
    delivering mode r execution >>= fun b => pure (.ofBinding b)
  have binds : (s.execute .reader mode r >>= bind).observe start =
      (((s.openCursor mode r).observe start).1.map .ofBinding,
        ((s.openCursor mode r).observe start).2) := by
    rw [openCursor_eq, ← bind_assoc, Attempt.observe_bind_apply]
    rcases (s.execute .reader mode r >>= delivering mode r).observe start with ⟨_ | _, _⟩ <;> rfl
  rw [← binds]
  refine EndsAs.of_execute Shape.reader_faithful (s.readerStages_along mode r)
    (fun execution v => ?_) fun execution =>
      (hides_delivering Facet.failures_focused mode r execution).bind fun _ => .pure _
  rw [← delivering_stages, Attempt.observe_bind_apply]
  rcases (delivering mode r execution).observe v with ⟨_ | _, _⟩ <;> rfl

theorem executeReader_endsAs (command : Command σ) (mode : Mode) (r : Request σ)
    (start : Session σ) :
    EndsAs (command.statement.readerStages mode r) start
      ((command.executeReader mode r start).1.1, (command.executeReader mode r start).2) := by
  rw [executeReader_outcome]
  exact (command.statement.openCursor_endsAs mode r start).before
    (hides_executeReader Facet.failures_focused mode r command start)

/-- Every call that fails ends as the first of its stages that fails. -/
theorem calls_end_as_first_failure (mode : Mode) (start : Session σ) :
    (∀ (s : Statement) (r : Request σ),
      EndsAs (s.onceStages .nonQuery mode r) start ((s.executeNonQuery mode r).observe start) ∧
      EndsAs (s.onceStages .scalar mode r) start ((s.executeScalar mode r).observe start)) ∧
    ∀ (command : Command σ) (r : Request σ),
      EndsAs (command.statement.readerStages mode r) start
        ((command.executeReader mode r start).1.1, (command.executeReader mode r start).2) :=
  ⟨fun s r => ⟨executeOnce_endsAs Shape.nonQuery_faithful s mode r start,
      executeOnce_endsAs Shape.scalar_faithful s mode r start⟩,
    fun command r => executeReader_endsAs command mode r start⟩

end Calls

end Statement

end SqlExecution
