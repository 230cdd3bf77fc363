import SqlExecution.Proofs.ReaderLife
import SqlExecution.Proofs.Tandem.Readers

/-! What the disposing event reports of a reader: how many rows were read. It goes to the trace and
to every interceptor, and nothing else that disposing a reader does reports a number of rows. -/

namespace SqlExecution

variable {σ : Type}

open Session Trace

/-- The number of rows that a disposing event reports. -/
def Entry.readCount? : Entry → Option Int
  | .hook d =>
    match d.subject, d.input with
    | .command _ _, .given (.disposal x) => some x.readCount
    | _, _ => none
  | .trace r =>
    match r.field? "command_id", r.field? "read_count" with
    | some _, some (.int n) => some n
    | _, _ => none
  | _ => none

theorem Entry.Plain.readCount {e : Entry} (plain : e.Plain) : e.readCount? = none := by
  cases e with
  | hook d =>
    obtain ⟨interceptor, coverage, hook, mode, subject, input⟩ := d
    cases subject with
    | command event c => exact absurd rfl (plain event c)
    | transaction event => rfl
  | trace r =>
    have unnamed : r.field? "command_id" = none := plain
    simp [readCount?, unnamed]
  | _ => rfl

namespace Session

/-- Exactly these numbers of rows were reported from one moment to the other. -/
def Reports (s : Session σ) (counts : List Int) (t : Session σ) : Prop :=
  ∃ added, t.journal = s.journal ++ added ∧ added.filterMap (·.entry.readCount?) = counts

variable {s t u : Session σ} {counts more : List Int}

theorem Reports.of_journal_eq (same : t.journal = s.journal) : s.Reports [] t :=
  ⟨[], by rw [same, List.append_nil], rfl⟩

theorem Reports.trans (first : s.Reports counts t) (second : t.Reports more u) :
    s.Reports (counts ++ more) u := by
  obtain ⟨added, journal, rfl⟩ := first
  obtain ⟨added', journal', rfl⟩ := second
  exact ⟨added ++ added', by rw [journal', journal, List.append_assoc], List.filterMap_append⟩

theorem Reports.before (first : s.Reports counts t) (quiet : t.Reports [] u) :
    s.Reports counts u := by
  simpa using first.trans quiet

theorem reports_noted {e : Entry} (s : Session σ) : s.Reports e.readCount?.toList (s.noted e) :=
  ⟨_, rfl, by cases shown : e.readCount? <;> simp [shown]⟩

end Session

theorem Session.unreported_watches (s : Session σ) :
    (Tandem.alone (s.Reports []) (fun _ => False) (fun _ => False)).Watches where
  cancelled same := by rw [same]
  notes {u e} here kept allowed := by
    rcases allowed with plain | ⟨_, raised, _⟩
    · have noted := reports_noted (e := e) u
      rw [plain.readCount] at noted
      exact here.before noted
    · exact raised.elim
  moves _ here := here
  connects _ here := here
  tickets here := here
  serials here := here
  raises may := may.elim

namespace Logger

theorem readerDisposing_reports (l : Logger σ) (mode : Mode) (c : NativeCommand)
    (event : CommandEvent) (d : Disposal) (s : Session σ) :
    s.Reports (List.replicate ((TraceLevel.debug.isKept s.traceLimit).toNat +
      l.commandInterceptors.length) (d.readCount : Int))
      (l.readerDisposing mode c event d s).2 := by
  have told : ∀ (is : List (CommandInterceptor σ)) (u : Session σ),
      u.Reports (List.replicate is.length (d.readCount : Int)) (is.forM (fun i => do
        delivery i .readerDisposing mode event (some c) (.given (.disposal d))
        Engine.act (i.disposing mode c event d)) u).2 := by
    intro is
    induction is with
    | nil => exact fun u => .of_journal_eq rfl
    | cons i rest ih =>
      intro u
      have first := reports_noted (e := .hook ⟨i.name, i.coverage, .readerDisposing, mode,
        .command event (some c), .given (.disposal d)⟩) u
      exact first.trans (ih _)
  have traced : s.Reports
      (List.replicate (TraceLevel.debug.isKept s.traceLimit).toNat (d.readCount : Int))
      (Engine.trace .debug readerTarget
        ("Closing data reader after " ++ Value.intText d.readCount ++ " rows " ++ elapsed)
        (commandFields event ++ [("read_count", .int d.readCount),
          ("records_affected", .int d.recordsAffected.toInt)]) s).2 := by
    rw [Engine.trace_snd]
    cases TraceLevel.debug.isKept s.traceLimit with
    | false => exact .of_journal_eq rfl
    | true => exact reports_noted s
  rw [← List.replicate_append_replicate]
  exact traced.trans (told l.commandInterceptors _)

end Logger

namespace DataReader

/-- How many the disposal of the reader is reported to. -/
def hearers (r : DataReader σ) (limit : Option TraceLevel) : Nat :=
  match r.logger?.filter (·.raisesExecute limit) with
  | none => 0
  | some l => (TraceLevel.debug.isKept limit).toNat + l.commandInterceptors.length

variable [Driver σ]

theorem announce_reports (mode : Mode) {r : DataReader σ} {b : ReaderBinding σ}
    (phase : r.phase = .bound b) (s : Session σ) :
    s.Reports (List.replicate (r.hearers s.traceLimit) (r.readCount : Int))
      (r.announce mode b s).2 := by
  have asked : Engine.raising Logger.raisesExecute b.logger s =
      (r.logger?.filter (·.raisesExecute s.traceLimit), s) := by
    simp only [logger?, phase, ReaderPhase.binding?]
    rfl
  unfold announce hearers
  rw [Engine.bind_apply, asked]
  dsimp only
  cases r.logger?.filter (·.raisesExecute s.traceLimit) with
  | none => exact .of_journal_eq rfl
  | some l =>
    dsimp only
    rw [Engine.bind_apply, ExecutionInfo.event_eq]
    have unread : ∀ u, (r.recordsAffected u).2 = u := fun u => by
      unfold recordsAffected
      rcases r.cursor? with _ | c | b <;> rfl
    rw [Engine.bind_apply, unread]
    have reported := l.readerDisposing_reports mode b.command
      (b.info.eventAs (s.idFor b.info.ticket))
      ⟨(r.recordsAffected (s.identified b.info.ticket)).1, r.readCount⟩
      (s.identified b.info.ticket)
    have limit : (s.identified b.info.ticket).traceLimit = s.traceLimit := by
      rw [identified_eq]
    have journal : (s.identified b.info.ticket).journal = s.journal := by
      rw [identified_eq]
    rw [limit] at reported
    exact (Reports.of_journal_eq journal).trans reported

theorem dispose_reports (mode : Mode) (r : DataReader σ) (s : Session σ) :
    s.Reports (List.replicate (r.hearers s.traceLimit) (r.readCount : Int))
      (r.dispose mode s).2 := by
  unfold dispose
  rcases phase : r.phase with _ | b | _
  · have unheard : r.hearers s.traceLimit = 0 := by
      simp [hearers, logger?, phase, ReaderPhase.binding?]
    rw [unheard]
    exact .of_journal_eq rfl
  · have told := r.announce_reports mode phase s
    have released := (Tandem.runs_releaseBinding (r.announce mode b s).2.unreported_watches
      (Tandem.answers_of_eq rfl rfl) mode (b := b) rfl rfl).alone
      (s := (r.announce mode b s).2) (.of_journal_eq rfl)
    exact told.before released.2
  · have unheard : r.hearers s.traceLimit = 0 := by
      simp [hearers, logger?, phase, ReaderPhase.binding?]
    rw [unheard]
    exact .of_journal_eq rfl

theorem drop_reports (r : DataReader σ) (s : Session σ) :
    s.Reports (List.replicate (r.hearers s.traceLimit) (r.readCount : Int)) (r.drop s).2 := by
  have disposed := r.dispose_reports .blocking s
  unfold drop
  rw [Engine.bind_apply]
  rcases (r.dispose .blocking s).1.1 with failure | _
  · let t := (r.dispose .blocking s).2
    have traced : Tandem.Runs _ Eq
        (Engine.trace .warn readerTarget "Failed to dispose data reader on drop"
          [errorField failure.toError])
        (Engine.trace .warn readerTarget "Failed to dispose data reader on drop"
          [errorField failure.toError]) := Tandem.runs_trace t.unreported_watches (.inl rfl)
    exact disposed.before (traced.alone (.of_journal_eq rfl)).2
  · exact disposed

theorem rebind_reports (mode : Mode) (b : ReaderBinding σ) (r : DataReader σ) (s : Session σ) :
    s.Reports (List.replicate (r.hearers s.traceLimit) (r.readCount : Int))
      (r.rebind mode b s).2 := by
  have disposed := r.dispose_reports mode s
  have warned := (Tandem.runs_warn (r.dispose mode s).2.unreported_watches readerTarget
    "Failed to dispose previous data reader" (show [].lookup "command_id" = none from rfl)
    (r.dispose mode s).1.1).alone (.of_journal_eq rfl)
  exact disposed.before warned.2

end DataReader

end SqlExecution
