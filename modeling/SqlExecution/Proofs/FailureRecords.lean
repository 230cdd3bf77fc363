import SqlExecution.Proofs.Chronicle
import SqlExecution.Proofs.Identifiers
import SqlExecution.Proofs.Tandem.Basic
import SqlExecution.Scripted.Hooks

/-! What the trace shows of failures. A command that fails is put on record once, as an error, and
that is asked of the same logger that hears of its execution: where nobody intercepts commands and
records of finished executions are not kept, a failure leaves no record either. -/

namespace SqlExecution

variable {σ α β : Type}

open Session Trace

/-- The record of a failed command, if this is one. -/
def Entry.failureReport? (e : Entry) : Option TraceRecord := e.record?.filter (·.isReport)

namespace Session

/-- From one moment to the other exactly these failures were put on record. Which records are kept
stayed as it was. -/
structure Reported (s : Session σ) (records : List TraceRecord) (t : Session σ) : Prop where
  limit : t.traceLimit = s.traceLimit
  journal : ∃ added, t.journal = s.journal ++ added ∧ added.filterMap (·.entry.failureReport?) = records

abbrev Unreported (s t : Session σ) : Prop := s.Reported [] t

variable {s t u : Session σ} {records more : List TraceRecord}

theorem Reported.of_journal_eq (journal : t.journal = s.journal)
    (limit : t.traceLimit = s.traceLimit) : s.Unreported t :=
  ⟨limit, [], by rw [journal, List.append_nil], rfl⟩

theorem Reported.trans (first : s.Reported records t) (second : t.Reported more u) :
    s.Reported (records ++ more) u := by
  obtain ⟨limit, added, journal, rfl⟩ := first
  obtain ⟨limit', added', journal', rfl⟩ := second
  exact ⟨limit'.trans limit, added ++ added', by rw [journal', journal, List.append_assoc],
    List.filterMap_append⟩

theorem Reported.after (quiet : s.Unreported t) (h : t.Reported records u) : s.Reported records u :=
  quiet.trans h

theorem Reported.before (h : s.Reported records t) (quiet : t.Unreported u) :
    s.Reported records u := by simpa using h.trans quiet

theorem reported_noted (e : Entry) (s : Session σ) : s.Reported e.failureReport?.toList (s.noted e) :=
  ⟨rfl, [⟨s.scene, e⟩], rfl, by cases is : e.failureReport? <;> simp [is]⟩

theorem unreported_noted {e : Entry} (other : e.failureReport? = none) (s : Session σ) :
    s.Unreported (s.noted e) := by
  have noted := reported_noted e s
  rwa [other] at noted

instance : ReportingLaw (Unreported : Session σ → Session σ → Prop) where
  trans := Reported.trans
  unseen journal _ _ _ limit := .of_journal_eq journal limit
  remarked ordinary := unreported_noted (by simp [Entry.failureReport?, Entry.record?, ordinary])

theorem hears_unreported (hook : Hook) : Hears (Unreported (σ := σ)) hook :=
  fun _ _ => unreported_noted rfl

theorem eachHook_unreported (l : Logger σ) : l.EachHook (Lets Unreported) :=
  l.eachHook_of_forall fun _ _ => .of_journal_eq rfl rfl

theorem allows_unreported [Driver σ] (call : NativeCall) : Allows (Unreported (σ := σ)) call :=
  ⟨unreported_noted rfl, fun _ => .of_journal_eq rfl rfl⟩

theorem discards_unreported [Driver σ] : Discards (Unreported (σ := σ)) :=
  ⟨fun _ => allows_unreported _, fun _ _ => allows_unreported _⟩

end Session

namespace Logger

/-- What a failed command is put on record as. -/
def failureRecord (l : Logger σ) (c : NativeCommand) (event : CommandEvent) (e : Error) :
    TraceRecord :=
  ⟨.error, commandTarget,
    "Failed executing DbCommand " ++ elapsed ++ " [" ++ l.describe c ++ "]\n" ++ c.text,
    commandFields event ++ [methodField event, errorField e]⟩

theorem commandFailed_reported (l : Logger σ) (mode : Mode) (c : NativeCommand)
    (event : CommandEvent) (e : Error) (s : Session σ) :
    s.Reported (if TraceLevel.error.isKept s.traceLimit then [l.failureRecord c event e] else [])
      (l.commandFailed mode c event e s).2 := by
  have traced : s.Reported
      (if TraceLevel.error.isKept s.traceLimit then [l.failureRecord c event e] else [])
      (Engine.trace .error commandTarget
        ("Failed executing DbCommand " ++ elapsed ++ " [" ++ l.describe c ++ "]\n" ++ c.text)
        (commandFields event ++ [methodField event, errorField e]) s).2 := by
    rw [Engine.trace_snd]
    cases TraceLevel.error.isKept s.traceLimit with
    | false => exact .of_journal_eq rfl rfl
    | true => exact reported_noted (.trace (l.failureRecord c event e)) s
  have told : Engine.Obeys Unreported (l.commandInterceptors.forM fun i => do
      delivery i .commandFailed mode event (some c) (.given (.error e))
      Engine.act (i.failed mode c event e)) := Engine.obeys_forM fun i member =>
    (obeys_delivery (hears_unreported _) i _ _ _ _).bind fun _ =>
      Engine.obeys_act (((eachHook_unreported l).command i member).failed mode c event e)
  exact traced.before (told _)

end Logger

theorem TraceLevel.isKept_info_of_debug {limit : Option TraceLevel}
    (kept : TraceLevel.debug.isKept limit = true) : TraceLevel.info.isKept limit = true := by
  cases limit with
  | none => cases kept
  | some level =>
    have lower : TraceLevel.info.rank ≤ TraceLevel.debug.rank := by decide
    simp only [isKept, decide_eq_true_eq] at kept ⊢
    exact Nat.le_trans lower kept

namespace Logger

/-- Somebody intercepts commands, or records of finished executions are kept. -/
def Attended (l : Logger σ) (limit : Option TraceLevel) : Prop :=
  l.commandInterceptors.isEmpty = false ∨ TraceLevel.info.isKept limit = true

instance (l : Logger σ) (limit : Option TraceLevel) : Decidable (l.Attended limit) :=
  inferInstanceAs (Decidable (_ ∨ _))

variable {l : Logger σ} {limit : Option TraceLevel}

theorem raisesExecute_iff (executes : l.options.executeEvents = true) :
    l.raisesExecute limit = true ↔ l.Attended limit := by
  simp [raisesExecute, Attended, executes]

theorem raisesExecute_of_raisesCreate (executes : l.options.executeEvents = true)
    (raises : l.raisesCreate limit = true) : l.raisesExecute limit = true := by
  rw [raisesExecute_iff executes]
  simp only [raisesCreate, Bool.and_eq_true, Bool.or_eq_true, Bool.not_eq_true'] at raises
  exact raises.2.imp id TraceLevel.isKept_info_of_debug

end Logger

theorem Halt.listener_eq (halt : Halt) {r : Request σ} {l : Logger σ} (logger : r.logger = some l)
    (executes : l.options.executeEvents = true) (start : Session σ) :
    halt.listener r start = if l.Attended start.traceLimit then some l else none := by
  have same : (l.raisesCreate start.traceLimit || l.raisesExecute start.traceLimit) =
      l.raisesExecute start.traceLimit := by
    cases creates : l.raisesCreate start.traceLimit with
    | false => rfl
    | true => rw [Logger.raisesExecute_of_raisesCreate executes creates, Bool.or_true]
  have either : halt.listener r start = if l.raisesExecute start.traceLimit then some l else none := by
    unfold listener Request.reporting
    rw [logger]
    simp only [Option.filter, same]
    split <;> rfl
  rw [either]
  simp only [Logger.raisesExecute_iff executes]

namespace Statement

/-- What a failure is put on record as: whoever hears of it writes the record, if errors are
kept. -/
def failureRecords (logger : Option (Logger σ)) (info : ExecutionInfo) (c : NativeCommand)
    (e : Error) (s : Session σ) : List TraceRecord :=
  match logger with
  | none => []
  | some l => if TraceLevel.error.isKept s.traceLimit then
      [l.failureRecord c (info.eventAs (s.idFor info.ticket)) e] else []

theorem reportFailure_reported (mode : Mode) (logger : Option (Logger σ)) (info : ExecutionInfo)
    (c : NativeCommand) (e : Error) (s : Session σ) :
    s.Reported (failureRecords logger info c e s) (reportFailure mode logger info c e s).2 := by
  cases logger with
  | none => exact .of_journal_eq rfl rfl
  | some l =>
    have identified : s.Unreported (s.identified info.ticket) := by
      rw [identified_eq]
      exact .of_journal_eq rfl rfl
    have reported := l.commandFailed_reported mode c (info.eventAs (s.idFor info.ticket)) e
      (s.identified info.ticket)
    rw [identified.limit] at reported
    dsimp only [reportFailure]
    rw [Engine.bind_apply, info.event_eq]
    exact .after identified reported

variable [Driver σ]

theorem unreported_releaseOutcome (mode : Mode) (id : ConnectionId) :
    Engine.Obeys (Unreported (σ := σ)) (id.releaseOutcome mode) :=
  ConnectionId.obeys_releaseOutcome (allows_unreported _) fun _ => .of_journal_eq rfl rfl

theorem abandon_reported (mode : Mode) (logger : Option (Logger σ)) (info : ExecutionInfo)
    (c : NativeCommand) (e : Error) (opened : Bool) (s : Session σ) :
    s.Reported (failureRecords logger info c e s)
      (abandon mode logger info c e opened s).2 := by
  have discharged : Engine.Obeys (Unreported (σ := σ)) (discharge mode info c opened) :=
    obeys_discharge discards_unreported (fun _ => unreported_releaseOutcome mode _) c
  rw [abandon_eq, Engine.bind_apply]
  exact (reportFailure_reported mode logger info c e s).before (discharged _)

theorem unreported_cleanUp (mode : Mode) (id : ConnectionId) (c : NativeCommand) :
    Engine.Obeys (Unreported (σ := σ)) (c.cleanUp mode id) :=
  NativeCommand.obeys_cleanUp discards_unreported (unreported_releaseOutcome mode id) c

theorem unreported_load (mode : Mode) (columns : List ReaderColumn) (detailed : Bool)
    (cursor : Cursor) :
    Attempt.Obeys (Unreported (σ := σ)) (cursor.load mode columns detailed) :=
  Cursor.obeys_load (fun _ _ => allows_unreported _) (allows_unreported _) columns detailed

theorem unreported_rebind (mode : Mode) (b : ReaderBinding σ) (reader : DataReader σ) :
    Engine.Obeys Unreported (reader.rebind mode b) :=
  DataReader.obeys_rebind ⟨discards_unreported, hears_unreported _, fun _ _ => allows_unreported _,
    unreported_releaseOutcome⟩ mode (fun l _ => eachHook_unreported l) b

theorem unreported_stages {shape : Shape σ α} (faithful : shape.Faithful) (s : Statement)
    (mode : Mode) (r : Request σ) (start : Session σ) :
    start.Unreported ((s.stages shape mode r).observe start).2 := by
  have yields : ∀ info, Attempt.Obeys (Unreported (σ := σ)) (yielded r info) := fun info =>
    obeys_yielded (allows_unreported _) (hears_unreported _) (hears_unreported _)
      fun l _ => eachHook_unreported l
  have takes : Attempt.Obeys (Unreported (σ := σ)) (r.connection.acquire mode) :=
    ConnectionId.obeys_acquire (allows_unreported _) fun _ _ => .of_journal_eq rfl rfl
  have performs : Attempt.Obeys Unreported (s.performing shape mode r) :=
    (obeys_opening yields takes s shape.method).bind fun (setting, c, _) =>
      (obeys_run faithful (fun _ => hears_unreported _) (fun _ => hears_unreported _)
        (fun l _ => eachHook_unreported l) (allows_unreported _)).bind fun _ => .pure _
  have unreported := performs start
  rwa [performing_eq] at unreported

/-- What an execution that ends so is put on record as. -/
def recordsOf (shape : Shape σ α) (mode : Mode) (r : Request σ) (start : Session σ) :
    Except Halt (Execution α) × Session σ → List TraceRecord
  | (.ok _, _) => []
  | (.error halt, t) =>
    match halt.command with
    | none => []
    | some c => failureRecords (halt.listener r start) (r.info start.nextTicket shape.method mode) c
        halt.failure.toError t

theorem execute_reported_as {shape : Shape σ α} (faithful : shape.Faithful) (s : Statement)
    (mode : Mode) (r : Request σ) (start : Session σ) :
    start.Reported (recordsOf shape mode r start ((s.stages shape mode r).observe start))
      ((s.execute shape mode r).observe start).2 := by
  have unreported := unreported_stages faithful s mode r start
  rw [execute_staged]
  generalize (s.stages shape mode r).observe start = staged at unreported ⊢
  obtain ⟨⟨stage, failure, command⟩ | execution, t⟩ := staged
  · cases command with
    | none => exact unreported
    | some c => exact .after unreported (abandon_reported mode _ _ c _ _ t)
  · exact unreported

/-- A call that fails once there is a command ends as that failure, which is put on record exactly
once if the logger is attended, or else not at all. Nothing else that a call does is put on record
as a failed command. -/
structure PutsOnRecord (shape : Shape σ α) (s : Statement) (mode : Mode) (r : Request σ)
    (l : Logger σ) (start : Session σ) (call : Outcome β × Session σ) : Prop where
  failed : ∀ halt t, (s.stages shape mode r).observe start = (.error halt, t) →
    halt.stage.commanded = true →
    call.1 = .error halt.failure ∧ ∃ c, halt.command = some c ∧
      start.Reported (if l.Attended start.traceLimit then [l.failureRecord c
          ((r.info start.nextTicket shape.method mode).eventAs (t.idFor start.nextTicket))
          halt.failure.toError] else []) call.2
  otherwise : (∀ halt t, (s.stages shape mode r).observe start = (.error halt, t) →
    halt.stage.commanded = false) → start.Unreported call.2

section Calls

variable {r : Request σ} {l : Logger σ} (logger : r.logger = some l)
  (executes : l.options.executeEvents = true) {start : Session σ}
  (kept : TraceLevel.error.isKept start.traceLimit = true)
include logger executes kept

theorem putsOnRecord_of_execute {shape : Shape σ α} (faithful : shape.Faithful) {s : Statement}
    {mode : Mode} {call : Outcome β × Session σ}
    (after : ((s.execute shape mode r).observe start).2.Unreported call.2)
    (fails : ∀ failure t, (s.execute shape mode r).observe start = (.error failure, t) →
      call.1 = .error failure) : s.PutsOnRecord shape mode r l start call := by
  have reported := (execute_reported_as faithful s mode r start).before after
  constructor
  · intro halt t halts commanded
    have limit := (unreported_stages faithful s mode r start).limit
    have ends := execute_staged shape s mode r start
    rw [halts] at reported limit ends
    have present := (stages_halts shape s mode r start halt t halts).trans commanded
    obtain ⟨c, command⟩ := Option.isSome_iff_exists.1 present
    refine ⟨fails _ _ ends, c, command, ?_⟩
    simp only [recordsOf, command, halt.listener_eq logger executes] at reported
    by_cases attended : l.Attended start.traceLimit
    · have errors : TraceLevel.error.isKept t.traceLimit = true := limit ▸ kept
      rw [if_pos attended] at reported ⊢
      rwa [failureRecords, if_pos errors] at reported
    · rw [if_neg attended] at reported ⊢
      exact reported
  · intro spared
    rcases staged : (s.stages shape mode r).observe start with ⟨halt | execution, t⟩
    all_goals rw [staged] at reported
    · have absent := (stages_halts shape s mode r start halt t staged).trans
        (spared halt t staged)
      have bare : halt.command = none := by simpa using absent
      simpa only [recordsOf, bare] using reported
    · exact reported

theorem executeOnce_putsOnRecord {shape : Shape σ α} (faithful : shape.Faithful) (s : Statement)
    (mode : Mode) :
    s.PutsOnRecord shape mode r l start ((s.executeOnce shape mode r).observe start) :=
  putsOnRecord_of_execute logger executes kept faithful
    (Attempt.Obeys.after (fun _ => obeys_concluding (unreported_cleanUp _ _ _)) _ start)
    fun _ _ fails => congrArg Prod.fst (Attempt.observe_bind_error fails _)

theorem executeReader_putsOnRecord (command : Command σ) (mode : Mode) :
    command.statement.PutsOnRecord .reader mode r l start
      ((command.executeReader mode r start).1.1, (command.executeReader mode r start).2) := by
  have delivered : ((command.statement.execute .reader mode r).observe start).2.Unreported
      ((command.statement.openCursor mode r).observe start).2 :=
    Attempt.Obeys.after (fun _ => obeys_delivering (fun _ => unreported_load _ _ _ _)
      (unreported_cleanUp _ _ _)) _ start
  have bound := executeReader_after (r := r) (unreported_rebind mode) command start
  refine putsOnRecord_of_execute logger executes kept Shape.reader_faithful
    (delivered.trans bound) fun failure t fails => ?_
  have opens : (command.statement.openCursor mode r).observe start = (.error failure, t) :=
    Attempt.observe_bind_error fails _
  rw [executeReader_outcome, opens]
  rfl

/-- Where execution events are logged and errors are kept, whatever is called: a failure once there
is a command is put on record once, unless nobody intercepts commands and records of finished
executions are not kept. -/
theorem calls_put_failures_on_record (mode : Mode) :
    (∀ s : Statement,
      s.PutsOnRecord .nonQuery mode r l start ((s.executeNonQuery mode r).observe start) ∧
      s.PutsOnRecord .scalar mode r l start ((s.executeScalar mode r).observe start)) ∧
    ∀ command : Command σ, command.statement.PutsOnRecord .reader mode r l start
      ((command.executeReader mode r start).1.1, (command.executeReader mode r start).2) :=
  ⟨fun s => ⟨executeOnce_putsOnRecord logger executes kept Shape.nonQuery_faithful s mode,
      executeOnce_putsOnRecord logger executes kept Shape.scalar_faithful s mode⟩,
    fun command => executeReader_putsOnRecord logger executes kept command mode⟩

end Calls

/-- A command whose execution fails, with a logger that nobody has registered an interceptor with. -/
def failingQuery : Session Script :=
  let faults : NativeMethod → List (Option Fault)
    | .executeNonQuery => [some (.error (.custom "boom"))]
    | _ => []
  { scene := ⟨{ connections := fun _ => { faults } }, none⟩ }

theorem calls_put_failures_on_record_at_info :
    let l : Logger Script := ⟨{}, [], []⟩
    let r : Request Script := { connection := ⟨0⟩, logger := l, detailedErrors := false }
    let s : Statement := ⟨"DELETE FROM t", []⟩
    let start : Session Script := { failingQuery with traceLimit := some .info }
    l.options.executeEvents = true ∧ TraceLevel.error.isKept start.traceLimit = true ∧
      l.Attended start.traceLimit ∧
      s.PutsOnRecord .nonQuery .blocking r l start ((s.executeNonQuery .blocking r).observe start) ∧
      ∃ halt t, (s.stages .nonQuery .blocking r).observe start = (.error halt, t) ∧
        halt.stage.commanded = true := by
  intro l r s start
  have logger : r.logger = some l := rfl
  have executes : l.options.executeEvents = true := rfl
  have kept : TraceLevel.error.isKept start.traceLimit = true := rfl
  have put := (calls_put_failures_on_record logger executes kept .blocking).1 s
  exact ⟨executes, kept, .inr rfl, put.1, _, _, rfl, rfl⟩

/-- With errors kept and execution events logged, the failure is put on record nowhere. -/
theorem unrecorded_failure_at_error :
    let l : Logger Script := ⟨{}, [], []⟩
    let r : Request Script := { connection := ⟨0⟩, logger := l, detailedErrors := false }
    let s : Statement := ⟨"DELETE FROM t", []⟩
    let start : Session Script := { failingQuery with traceLimit := some .error }
    let last := ((s.executeNonQuery .blocking r).observe start).2
    l.options.executeEvents = true ∧ TraceLevel.error.isKept start.traceLimit = true ∧
      (∃ halt t, (s.stages .nonQuery .blocking r).observe start = (.error halt, t) ∧
        halt.stage.commanded = true ∧ halt.failure = .error (.custom "boom")) ∧
      ¬ ∃ record, start.Reported [record] last := by
  intro l r s start last
  refine ⟨rfl, rfl, ⟨_, _, rfl, rfl, rfl⟩, fun ⟨record, _, added, journal, records⟩ => ?_⟩
  have unrecorded : last.journal.filterMap (·.entry.failureReport?) = [] := by
    decide +kernel +zetaReduce
  have all : last.journal = added := journal
  rw [all, records] at unrecorded
  cases unrecorded

end Statement

end SqlExecution
