import SqlExecution.Proofs.CommandLife
import SqlExecution.Proofs.ExecutionEvents

/-! The events of whole executions and of the disposal of their readers. Each is accounted for: it
is of the execution that runs, or of the one whose reader is disposed. -/

namespace SqlExecution

variable {σ α : Type}

open Session Tandem

theorem Session.Accounts.mute {m : Engine σ α} {s t : Session σ} {info : Option ExecutionInfo}
    {raised : Prop} (accounts : s.Accounts info raised t) (mute : m.Mute) :
    s.Accounts info raised (m t).2 := by
  cases info with
  | none => exact mute.speaks accounts
  | some info =>
    rcases accounts with ⟨unraised, silent⟩ | ⟨raised, speaks⟩
    · exact .silent unraised (mute.speaks silent)
    · exact .spoken raised (mute.speaks speaks)

namespace Statement

variable [Driver σ] {s : Statement} {method : Method} {mode : Mode} {r : Request σ}
  {start t : Session σ}

omit [Driver σ] in
theorem begins_of_enter_error {failure : Failure}
    (stops : (s.enter method mode r).observe start = (.error failure, t)) :
    start.Executes (s.begins method mode r start) start := by
  have unbegun : s.begins method mode r start = none := by rw [begins, stops]
  rw [unbegun]
  exact ⟨.refl start, by simp⟩

variable {setting : Setting σ} (enters : (s.enter method mode r).observe start = (.ok setting, t))
include enters

omit [Driver σ] in
theorem begins_of_enter_ok :
    s.begins method mode r start = some setting.info ∧ setting.info.ticket = start.nextTicket ∧
      start.ToldOf setting.info t := by
  obtain ⟨info, _, rfl⟩ := enter_ok enters
  refine ⟨by rw [begins, enters], by rw [info]; rfl, .inl ?_⟩
  exact speaks_of_journal_eq rfl (Nat.le_succ _) rfl rfl

omit [Driver σ] in
theorem executes_of_told {u : Session σ} (told : start.ToldOf setting.info u) (steady : t.Steady u)
    (voiced : start.Voiced start.nextTicket u) :
    start.Executes (s.begins method mode r start) u := by
  obtain ⟨begins, ticket, _⟩ := begins_of_enter_ok enters
  obtain ⟨_, _, rfl⟩ := enter_ok enters
  rw [begins]
  refine ⟨accounts_of_told told (by rwa [ticket]), fun i member => ?_⟩
  cases member
  exact ⟨ticket, steady.nextTicket⟩

omit enters

variable {shape : Shape σ α} (shapes : ∀ t : Tandem σ, t.Answers → t.Shapes shape)
  (plain : shape.Plain)
include shapes

theorem follows_enter {β : Type}
    (enters : (s.enter shape.method mode r).observe start = (.ok setting, t))
    (rest : Execution α → Attempt σ β)
    (rests : ∀ t : Tandem σ, t.Watches → t.scenes = Eq → t.commands = Eq → ∀ x x' : Execution α,
      t.Executions x x' → t.Tries (fun _ _ => True) (rest x) (rest x')) :
    start.ToldOf setting.info ((s.execute shape mode r >>= rest).observe start).2 ∧
      t.Steady ((s.execute shape mode r >>= rest).observe start).2 := by
  have goes : ∀ w : Tandem σ, w.Watches → w.scenes = Eq → w.commands = Eq →
      w.infos setting.info → w.Tries (fun _ _ => True) (s.proceed shape mode r setting >>= rest)
        (s.proceed shape mode r setting >>= rest) := fun w watches scenes commands may =>
    (tries_proceed watches (answers_of_eq scenes commands) (shapes w (answers_of_eq scenes commands))
      (requests_of_eq scenes commands s r) mode may
      fun l _ => suits_of_eq scenes commands l).bind (rests w watches scenes commands)
  rw [execute_eq_proceed, bind_assoc, Attempt.observe_bind_ok enters]
  have told := (goes _ (told_watches setting.info start) rfl rfl rfl).alone
    (begins_of_enter_ok enters).2.2
  have steady := (goes _ (steady_watches t) rfl rfl trivial).alone
    ⟨Onward.refl t, rfl⟩
  exact ⟨told.2, steady.2⟩

include plain

theorem executeOnce_executes (s : Statement) (mode : Mode) (r : Request σ) (start : Session σ) :
    start.Executes (s.begins shape.method mode r start)
      ((s.executeOnce shape mode r).observe start).2 := by
  rcases enters : (s.enter shape.method mode r).observe start with ⟨failure | setting, t⟩
  · have stays : ((s.executeOnce shape mode r).observe start).2 = start := by
      rw [executeOnce_eq, execute_eq_proceed, bind_assoc, Attempt.observe_bind_error enters]
      exact enter_error enters
    rw [stays]
    exact begins_of_enter_error enters
  · obtain ⟨told, steady⟩ := follows_enter shapes enters (concluding mode r)
      fun t watches scenes commands x x' executions =>
        (tries_concluding watches (answers_of_eq scenes commands) mode rfl executions.output
          executions.commands).mono fun _ _ _ => trivial
    refine executes_of_told enters told steady ?_
    have course := (s.execute_course shape mode r start).voiced shapes plain
    rw [executeOnce_eq, Attempt.observe_bind_apply]
    rcases executes : (s.execute shape mode r).observe start with ⟨failure | x, v⟩
    all_goals rw [executes] at course
    · exact course
    · exact course.mute (.of_tries fun t watches scenes commands =>
        tries_concluding watches (answers_of_eq scenes commands) mode rfl rfl (by rw [commands]))

omit shapes plain

theorem openCursor_executes (s : Statement) (mode : Mode) (r : Request σ) (start : Session σ) :
    start.Executes (s.begins (Shape.reader : Shape σ Cursor).method mode r start)
      ((s.openCursor mode r).observe start).2 := by
  rcases enters : (s.enter (Shape.reader : Shape σ Cursor).method mode r).observe start with
    ⟨failure | setting, t⟩
  · have stays : ((s.openCursor mode r).observe start).2 = start := by
      rw [openCursor_eq, execute_eq_proceed, bind_assoc, Attempt.observe_bind_error enters]
      exact enter_error enters
    rw [stays]
    exact begins_of_enter_error enters
  · obtain ⟨told, steady⟩ := follows_enter (fun _ => shapes_reader) enters (delivering mode r)
      fun t watches scenes commands x x' executions =>
        (tries_delivering watches (answers_of_eq scenes commands) mode
          (requests_of_eq scenes commands s r) executions).mono fun _ _ _ => trivial
    rw [← openCursor_eq] at told steady
    refine executes_of_told enters told steady ?_
    have course := (s.execute_course .reader mode r start).voiced (fun _ => shapes_reader)
      Shape.reader_plain
    have delivery := s.openCursor_delivery mode r start
    generalize ((s.openCursor mode r).observe start).1 = o,
      ((s.openCursor mode r).observe start).2 = w at delivery
    cases delivery with
    | unexecuted stops => rwa [stops] at course
    | direct executes _ => rwa [executes] at course
    | @unloaded cursor c info columns failure v w executes _ stops =>
      rw [executes] at course
      have loaded := course.mute (mute_load mode columns r.detailedErrors cursor)
      rw [stops] at loaded
      exact (loaded.mute (mute_cleanUp mode r.connection c)).mute
        (.of_runs fun _ watches _ _ => runs_warn watches _ _ rfl _)
    | @loaded cursor c info columns buffer v w executes _ loads =>
      rw [executes] at course
      have loaded := course.mute (mute_load mode columns r.detailedErrors cursor)
      rwa [loads] at loaded

theorem openCursor_begins {s : Statement} {b : ReaderBinding σ} {u : Session σ}
    (opens : (s.openCursor mode r).observe start = (.ok b, u)) :
    s.begins (Shape.reader : Shape σ Cursor).method mode r start = some b.info := by
  have delivery := s.openCursor_delivery mode r start
  have executed : ∀ {x : Execution Cursor} {v : Session σ},
      (s.execute .reader mode r).observe start = (.ok x, v) →
      s.begins (Shape.reader : Shape σ Cursor).method mode r start = some x.info := by
    intro x v executes
    have course := s.execute_course .reader mode r start
    rw [executes] at course
    cases course with
    | performed enters _ _ _ => exact (begins_of_enter_ok enters).1
  rw [opens] at delivery
  cases delivery with
  | direct executes _ => exact executed executes
  | loaded executes _ _ => exact executed executes

theorem createCommand_executes (s : Statement) (method : Method) (r : Request σ)
    (start : Session σ) :
    start.Executes (some (r.info start.nextTicket method .blocking))
      (s.createCommand method r start).2 := by
  let info := r.info start.nextTicket method .blocking
  let entered : Session σ := { start with nextTicket := start.nextTicket + 1 }
  have ends : (s.createCommand method r start).2 =
      ((s.prepare .blocking r info).observe entered).2 := rfl
  have fresh : ∀ events, start.Speaks events entered := fun _ =>
    speaks_of_journal_eq rfl (Nat.le_succ _) rfl rfl
  have steady : start.Steady entered := steady_of_journal_eq rfl (Nat.le_succ _) rfl
  have goes : ∀ w : Tandem σ, w.Watches → w.scenes = Eq → w.commands = Eq → w.infos info →
      w.Tries w.commands (s.prepare .blocking r info) (s.prepare .blocking r info) :=
    fun w watches scenes commands may => tries_prepare watches (answers_of_eq scenes commands) may
      (requests_of_eq scenes commands s r) .blocking
  rw [ends]
  have told := (goes _ (told_watches info start) rfl rfl rfl).alone (.inl (fresh _))
  have later := (goes _ (steady_watches entered) rfl rfl trivial).alone ⟨Onward.refl entered, rfl⟩
  have voiced := voiced_prepare steady (.inl (fresh _)) (s.prepare_course .blocking r info entered)
  refine ⟨accounts_of_told told.2 voiced.1, fun i member => ?_⟩
  cases member
  exact ⟨rfl, later.2.nextTicket⟩

end Statement

namespace DataReader

/-- The execution that the reader is bound to. -/
def execution? (r : DataReader σ) : Option ExecutionInfo := r.phase.binding?.map (·.info)

/-- To dispose the reader is an event that its logger raises. -/
def Announces (r : DataReader σ) (limit : Option TraceLevel) : Prop :=
  (r.logger?.filter (·.raisesExecute limit)).isSome

variable [Driver σ]

omit [Driver σ] in
theorem execution_of_unbound {r : DataReader σ} (unbound : ∀ b, r.phase ≠ .bound b) :
    r.execution? = none := by
  unfold execution?
  cases phase : r.phase with
  | bound b => exact absurd phase (unbound b)
  | _ => rfl

theorem mute_releaseBinding (mode : Mode) (b : ReaderBinding σ) : (releaseBinding mode b).Mute :=
  .of_runs fun _ watches scenes commands =>
    runs_releaseBinding watches (answers_of_eq scenes commands) mode rfl (by rw [commands])

theorem announce_accounts (mode : Mode) {r : DataReader σ} {b : ReaderBinding σ}
    (phase : r.phase = .bound b) (s : Session σ) :
    s.Accounts (some b.info) (r.Announces s.traceLimit) (r.announce mode b s).2 := by
  have asked : Engine.raising Logger.raisesExecute b.logger s =
      (r.logger?.filter (·.raisesExecute s.traceLimit), s) := by
    simp only [logger?, phase, ReaderPhase.binding?]
    rfl
  have unread : ∀ u, (r.recordsAffected u).2 = u := fun u => by
    unfold recordsAffected
    rcases r.cursor? with _ | c | b <;> rfl
  unfold announce Announces
  rw [Engine.bind_apply, asked]
  dsimp only
  cases r.logger?.filter (·.raisesExecute s.traceLimit) with
  | none => exact .silent Bool.false_ne_true (.refl s)
  | some l =>
    dsimp only
    rw [Engine.bind_apply, ExecutionInfo.event_eq, Engine.bind_apply, unread]
    let event := b.info.eventAs (s.idFor b.info.ticket)
    have watches := speaks_watches (· = event) (s.identified b.info.ticket)
    have tells := runs_readerDisposing watches rfl (suits_of_eq rfl rfl l) (c := b.command) rfl mode
      ⟨(r.recordsAffected (s.identified b.info.ticket)).1, r.readCount⟩
    exact .spoken rfl (tells.alone (.refl _)).2

theorem dispose_accounts (mode : Mode) (r : DataReader σ) (s : Session σ) :
    s.Accounts r.execution? (r.Announces s.traceLimit) (r.dispose mode s).2 := by
  unfold dispose
  rcases phase : r.phase with _ | b | _
  · rw [execution_of_unbound (by simp [phase])]
    exact .refl s
  · have bound : r.execution? = some b.info := by simp [execution?, phase, ReaderPhase.binding?]
    rw [bound]
    exact (r.announce_accounts mode phase s).mute (mute_releaseBinding mode b)
  · rw [execution_of_unbound (by simp [phase])]
    exact .refl s

theorem drop_accounts (r : DataReader σ) (s : Session σ) :
    s.Accounts r.execution? (r.Announces s.traceLimit) (r.drop s).2 := by
  have disposed := r.dispose_accounts .blocking s
  unfold drop
  rw [Engine.bind_apply]
  rcases (r.dispose .blocking s).1.1 with failure | _
  · exact disposed.mute (.of_runs fun _ watches _ _ => runs_trace watches (.inl rfl))
  · exact disposed

theorem rebind_accounts (mode : Mode) (b : ReaderBinding σ) (r : DataReader σ) (s : Session σ) :
    s.Accounts r.execution? (r.Announces s.traceLimit) (r.rebind mode b s).2 :=
  (r.dispose_accounts mode s).mute (.of_runs fun _ watches _ _ => runs_warn watches _ _ rfl _)

end DataReader

end SqlExecution
