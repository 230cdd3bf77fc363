import SqlExecution.Proofs.Accounting
import SqlExecution.Proofs.Approach
import SqlExecution.Proofs.CursorClose
import SqlExecution.Proofs.IdentifiedExecutions

/-! The reader of an execution and the execution that comes after it. An execution uses the command
that was created for it and the cursor that it got, and no others; so what a reader holds from
before is not touched until the new results are there, and only then it is released. -/

namespace SqlExecution

variable {σ α : Type}

open Session

namespace NativeCall

def cursor? : NativeCall → Option Cursor
  | columnName c _ => some c
  | read c _ => some c
  | nextResult c _ => some c
  | getValue c _ => some c
  | closeCursor c _ => some c
  | _ => none

/-- The call is made on the command or on the cursor that is held. -/
def On (h : Holding) (call : NativeCall) : Prop :=
  (∃ c, call.command? = some c ∧ c.Same h.command) ∨
    ∃ k, call.cursor? = some k ∧ h.cursor = some k

theorem cursor?_of_reads {c : Cursor} {call : NativeCall} (reads : c.Reads call) :
    call.cursor? = some c := by
  cases call <;> first | exact reads | cases reads

theorem not_on_of_command {h : Holding} {call : NativeCall} {c : NativeCommand}
    (on : call.command? = some c) (other : ¬ c.Same h.command) : ¬ call.On h := by
  rintro (⟨d, is, same⟩ | ⟨k, is, -⟩)
  · cases on.symm.trans is
    exact other same
  · cases call <;> cases on <;> cases is

theorem not_on_of_neither {h : Holding} {call : NativeCall} (command : call.command? = none)
    (cursor : call.cursor? = none) : ¬ call.On h := by
  rintro (⟨d, is, -⟩ | ⟨k, is, -⟩)
  · cases command.symm.trans is
  · cases cursor.symm.trans is

theorem not_on_of_cursor {h : Holding} {call : NativeCall} {k : Cursor}
    (on : call.cursor? = some k) (other : h.cursor ≠ some k) : ¬ call.On h := by
  rintro (⟨d, is, -⟩ | ⟨k', is, same⟩)
  · cases call <;> cases on <;> cases is
  · cases on.symm.trans is
    exact other same

end NativeCall

theorem NativeCommand.Same.symm {a b : NativeCommand} (same : a.Same b) : b.Same a :=
  ⟨same.1.symm, same.2.symm⟩

namespace Statement

variable [Driver σ]

/-- A law under which an execution may do what it does with what is its own: the connection and the
hooks of its request, the command that is created for it and the cursor that it gets. -/
structure Owns (R : Session σ → Session σ → Prop) (s : Statement) (mode : Mode) (r : Request σ)
    (start : Session σ) : Prop where
  hears (hook : Hook) : Hears R hook
  hooks : ∀ l ∈ r.logger, l.EachHook (Lets R)
  creates : Allows R (.createCommand r.connection)
  takes : Attempt.Obeys R (r.connection.acquire mode)
  gives : Engine.Obeys R (r.connection.releaseOutcome mode)
  command {d : NativeCommand} {hooked : Result Unit}
    (created : ((s.creation .reader mode r).observe start).1 = .ok (d, hooked)) {call : NativeCall}
    {c : NativeCommand} (on : call.command? = some c) (same : c.Same d) : Allows R call
  cursor {e : Execution Cursor} (executed : ((s.execute .reader mode r).observe start).1 = .ok e)
    {call : NativeCall} (on : call.cursor? = some e.output) : Allows R call

namespace Owns

variable {R : Session σ → Session σ → Prop} [Law R] {s : Statement} {mode : Mode} {r : Request σ}
  {start : Session σ} (owns : Owns R s mode r start)
include owns

theorem discards {c d : NativeCommand} {hooked : Result Unit}
    (created : ((s.creation .reader mode r).observe start).1 = .ok (d, hooked)) (same : c.Same d) :
    Engine.Obeys R (c.discard mode) :=
  NativeCommand.obeys_discard_of (owns.command created rfl same) (owns.command created rfl same)

theorem abandons {c d : NativeCommand} {hooked : Result Unit}
    (created : ((s.creation .reader mode r).observe start).1 = .ok (d, hooked)) (same : c.Same d)
    {logger : Option (Logger σ)} (raised : ∀ l ∈ logger, l ∈ r.logger) {info : ExecutionInfo}
    (here : info.connection = r.connection) (e : Error) (opened : Bool) :
    Engine.Obeys R (abandon mode logger info c e opened) :=
  obeys_abandon_of (owns.hears _) (fun l member => owns.hooks l (raised l member))
    (owns.discards created same) (fun _ => here ▸ owns.gives) e

theorem runs {c d : NativeCommand} {hooked : Result Unit}
    (created : ((s.creation .reader mode r).observe start).1 = .ok (d, hooked)) (same : c.Same d)
    {logger : Option (Logger σ)} (raised : ∀ l ∈ logger, l ∈ r.logger) (info : ExecutionInfo) :
    Attempt.Obeys R (run .reader mode logger info c) :=
  obeys_run Shape.reader_faithful (fun _ => owns.hears _) (fun _ => owns.hears _)
    (fun l member => owns.hooks l (raised l member)) (owns.command created rfl same)

section Course

variable {setting : Setting σ} {c : NativeCommand} {t u v : Session σ}

omit [Driver σ] owns in
theorem heard_of_entered (enters : (s.enter .reader mode r).observe start = (.ok setting, t)) :
    ∀ l ∈ setting.logger, l ∈ r.logger := by
  intro l member
  rw [(enter_ok enters).2.1] at member
  exact (Option.mem_filter_iff.1 member).1

omit [Driver σ] owns in
theorem entered {o : Outcome (Setting σ)}
    (enters : (s.enter .reader mode r).observe start = (o, t)) : R start t := by
  have obeys := s.obeys_enter (R := R) .reader mode r start
  rwa [enters] at obeys

theorem yielded {o : Outcome (NativeCommand × Result Unit)}
    (enters : (s.enter .reader mode r).observe start = (.ok setting, t))
    (yields : (Statement.yielded r setting.info).observe t = (o, u)) : R start u := by
  have creates : Allows R (.createCommand setting.info.connection) :=
    enter_connection enters ▸ owns.creates
  have obeys := obeys_yielded creates (owns.hears _) (owns.hears _) owns.hooks t
  rw [yields] at obeys
  exact Law.trans (entered enters) obeys

theorem prepared {o : Outcome NativeCommand}
    (enters : (s.enter .reader mode r).observe start = (.ok setting, t))
    (prepares : Preparation s mode r setting.info t o u) : R start u := by
  cases prepares with
  | uncreated stops => exact owns.yielded enters stops
  | @unequipped c c' hooked e u yields fails =>
    have same : c'.Same c := by
      simpa [fails] using s.same_equip r.values (u.connections r.connection) c hooked
    have created : ((s.creation .reader mode r).observe start).1 = .ok (c, hooked) :=
      congrArg Prod.fst ((creation_of_entered enters).trans yields)
    have reported : ∀ l ∈ r.reporting t, l ∈ r.logger := fun l member =>
      (Option.mem_filter_iff.1 member).1
    exact Law.trans (owns.yielded enters yields)
      (owns.abandons created same reported (enter_connection enters) e false u)
  | equipped yields equips => exact owns.yielded enters yields

theorem opened {o : Outcome Bool}
    (enters : (s.enter .reader mode r).observe start = (.ok setting, t))
    (prepares : Preparation s mode r setting.info t (.ok c) u)
    (opens : (openFor mode r.connection).observe u = (o, v)) : R start v := by
  have obeys := obeys_openFor owns.takes u
  rw [opens] at obeys
  exact Law.trans (owns.prepared enters prepares) obeys

end Course

theorem execute : R start ((s.execute .reader mode r).observe start).2 := by
  have course := s.execute_course .reader mode r start
  generalize (s.execute .reader mode r).observe start = ends at course ⊢
  obtain ⟨o, last⟩ := ends
  cases course with
  | unentered stops => exact entered stops
  | unprepared enters stops => exact owns.prepared enters stops
  | @unopened setting c failure t u v enters prepares stops =>
    obtain ⟨d, hooked, created, same, -⟩ := held_of_prepared enters prepares stops
    exact Law.trans (owns.opened enters prepares stops)
      (owns.abandons created same (heard_of_entered enters) (enter_connection enters)
        failure.toError false v)
  | @unperformed setting c _ failure t u v w enters prepares opens stops =>
    obtain ⟨d, hooked, created, same, -⟩ := held_of_prepared enters prepares opens
    have ran := owns.runs created same (heard_of_entered enters) setting.info v
    rw [stops] at ran
    exact Law.trans (Law.trans (owns.opened enters prepares opens) ran)
      (owns.abandons created same (heard_of_entered enters) (enter_connection enters)
        failure.toError true w)
  | @performed setting c _ _ t u v w enters prepares opens performs =>
    obtain ⟨d, hooked, created, same, -⟩ := held_of_prepared enters prepares opens
    have ran := owns.runs created same (heard_of_entered enters) setting.info v
    rw [performs] at ran
    exact Law.trans (owns.opened enters prepares opens) ran

theorem openCursor : R start ((s.openCursor mode r).observe start).2 := by
  have executed := owns.execute
  rw [openCursor_eq, Attempt.observe_bind_apply]
  rcases executes : (s.execute .reader mode r).observe start with ⟨failure | e, t⟩
  all_goals rw [executes] at executed
  · exact executed
  · have got : ((s.execute .reader mode r).observe start).1 = .ok e := by rw [executes]
    obtain ⟨d, hooked, created, -, same, -⟩ := execute_held Shape.reader_faithful executes
    have loads : ∀ columns, Attempt.Obeys R (e.output.load mode columns r.detailedErrors) :=
      fun columns => Cursor.obeys_load
        (fun _ reads => owns.cursor got (NativeCall.cursor?_of_reads reads))
        (owns.cursor got rfl) columns r.detailedErrors
    have cleans := NativeCommand.obeys_cleanUp_of (owns.discards created same) owns.gives
    exact Law.trans executed (obeys_delivering loads cleans t)

end Owns

end Statement

namespace Session

variable {P : NativeCall → Prop} {s t u : Session σ}

/-- From one moment to the other only calls of a kind were made. -/
def Makes (P : NativeCall → Prop) (s t : Session σ) : Prop :=
  ∃ made, t.calls = s.calls ++ made ∧ ∀ call ∈ made, P call

theorem Makes.of_calls_eq (same : t.calls = s.calls) : Makes P s t :=
  ⟨[], by rw [same, List.append_nil], by simp⟩

theorem Makes.trans (first : Makes P s t) (second : Makes P t u) : Makes P s u := by
  obtain ⟨made, calls, kind⟩ := first
  obtain ⟨more, calls', kind'⟩ := second
  refine ⟨made ++ more, ?_, List.forall_mem_append.2 ⟨kind, kind'⟩⟩
  rw [calls', calls, List.append_assoc]

theorem Makes.mono {Q : NativeCall → Prop} (weaker : ∀ call, P call → Q call) (h : Makes P s t) :
    Makes Q s t := by
  obtain ⟨made, calls, kind⟩ := h
  exact ⟨made, calls, fun call member => weaker call (kind call member)⟩

theorem Within.makes (h : Within P s t) : Makes P s t := by
  obtain ⟨made, issues, kind⟩ := h
  exact ⟨made, issues.calls, kind⟩

instance : Law (Makes P : Session σ → Session σ → Prop) where
  trans := Makes.trans
  unseen journal _ _ _ := .of_calls_eq (by simp [calls, entries, journal])
  traced record s := .of_calls_eq (by simp [calls, entries, noted, Entry.call?])

theorem allows_makes [Driver σ] {call : NativeCall} (kind : P call) :
    Allows (Makes (σ := σ) P) call :=
  ⟨fun s => ⟨[call], by simp [calls, entries, noted, Entry.call?], by simpa using kind⟩,
    fun _ => .of_calls_eq rfl⟩

/-- What is true of the driver stays true. -/
def Preserves (P : σ → Prop) (s t : Session σ) : Prop := P s.scene.state → P t.scene.state

instance (P : σ → Prop) : Law (Preserves P) where
  trans first second here := second (first here)
  unseen _ scene _ _ here := by rwa [scene]
  traced _ _ here := here

end Session

theorem NativeCommand.Held.keepsOpen {c : NativeCommand} {id i : ConnectionId} {held : Bool}
    {s t : Session σ} (holds : c.Held id held s t) :
    s.Makes (fun call => ∀ mode, call ≠ .closeConnection i mode) t := by
  obtain ⟨made, calls, kind⟩ := holds.calls
  refine ⟨made, calls, fun call member mode same => ?_⟩
  have releases := (kind call member).1
  rw [same] at releases
  cases releases

/-- What is done to the scene keeps what is true of the driver. -/
def Keeps (P : σ → Prop) (f : Scene σ → Scene σ) : Prop := ∀ s, P s.state → P (f s).state

/-- Nothing that the execution gets is what the reader holds: neither the command that is created or
supplied for it, nor the cursor. -/
structure Statement.Fresh [Driver σ] (s : Statement) (mode : Mode) (r : Request σ) (h : Holding)
    (start : Session σ) : Prop where
  command {d : NativeCommand} {hooked : Result Unit}
    (created : ((s.creation .reader mode r).observe start).1 = .ok (d, hooked)) :
    ¬ d.Same h.command
  cursor {e : Execution Cursor} (executed : ((s.execute .reader mode r).observe start).1 = .ok e) :
    h.cursor ≠ some e.output

namespace Statement

variable [Driver σ] {s : Statement} {mode : Mode} {r : Request σ} {h : Holding} {start : Session σ}

theorem Fresh.not_on_command (fresh : s.Fresh mode r h start) {d : NativeCommand}
    {hooked : Result Unit}
    (created : ((s.creation .reader mode r).observe start).1 = .ok (d, hooked)) {call : NativeCall}
    {c : NativeCommand} (on : call.command? = some c) (same : c.Same d) : ¬ call.On h :=
  NativeCall.not_on_of_command on fun held => fresh.command created (same.symm.trans held)

theorem owns_makes (fresh : s.Fresh mode r h start) :
    Owns (Makes fun call => ¬ call.On h) s mode r start where
  hears _ _ _ s := .of_calls_eq (by simp [calls, entries, noted, Entry.call?])
  hooks l _ := l.eachHook_of_forall fun _ _ => .of_calls_eq rfl
  creates := allows_makes (NativeCall.not_on_of_neither rfl rfl)
  takes := ConnectionId.obeys_acquire (allows_makes (NativeCall.not_on_of_neither rfl rfl))
    fun _ _ => .of_calls_eq rfl
  gives := ConnectionId.obeys_releaseOutcome (allows_makes (NativeCall.not_on_of_neither rfl rfl))
    fun _ => .of_calls_eq rfl
  command {_ _} created {_ _} on same := allows_makes (fresh.not_on_command created on same)
  cursor {_} executed {_} on :=
    allows_makes (NativeCall.not_on_of_cursor on (fresh.cursor executed))

theorem owns_preserves (fresh : s.Fresh mode r h start) {P : σ → Prop}
    (calls : ∀ call : NativeCall, ¬ call.On h → Keeps P call.effect)
    (hooks : ∀ l ∈ r.logger, l.EachHook (Keeps P)) : Owns (Preserves P) s mode r start := by
  have allows : ∀ call : NativeCall, ¬ call.On h → Allows (Preserves P) call := fun call other =>
    ⟨fun _ here => here, fun s here => calls call other s.scene here⟩
  exact {
    hears := fun _ _ _ _ here => here
    hooks := fun l member => (hooks l member).mono fun _ keeps (s : Session σ) here =>
      keeps s.scene here
    creates := allows _ (NativeCall.not_on_of_neither rfl rfl)
    takes := ConnectionId.obeys_acquire (allows _ (NativeCall.not_on_of_neither rfl rfl))
      fun _ _ here => here
    gives := ConnectionId.obeys_releaseOutcome (allows _ (NativeCall.not_on_of_neither rfl rfl))
      fun _ here => here
    command := fun {_ _} created {_ _} on same => allows _ (fresh.not_on_command created on same)
    cursor := fun {_} executed {_} on =>
      allows _ (NativeCall.not_on_of_cursor on (fresh.cursor executed)) }

omit [Driver σ] in
theorem Settled.keepsOpen {id i : ConnectionId} {created : Outcome (NativeCommand × Result Unit)}
    {held : Bool} {t : Session σ} (settled : Settled mode id created held start t)
    (live : 0 < start.openCount i) :
    start.Makes (fun call => ∀ mode, call ≠ .closeConnection i mode) t := by
  unfold Settled at settled
  split at settled
  · exact settled.makes.mono fun call is m same => by cases is.symm.trans same
  · obtain ⟨d, u, _, holds, v, disposed, back⟩ := settled
    have count : v.openCount i = start.openCount i + if held ∧ i = id then 1 else 0 := by
      rw [disposed.openCount, holds.openCount]
    refine (holds.keepsOpen.trans ⟨_, disposed.calls, by simp⟩).trans ⟨_, back.calls, ?_⟩
    cases held with
    | false => simp
    | true =>
      rw [if_pos rfl]
      unfold ConnectionId.closeCalls
      split
      · next closes =>
        have last : v.openCount id - 1 = 0 := ((v.connections id).closes_released.1 closes).1
        intro call member m same
        cases List.mem_singleton.1 member
        cases same
        rw [if_pos ⟨rfl, rfl⟩] at count
        omega
      · simp

end Statement

/-- From one moment to the other what a reader holds is not touched: nothing is called on its
command and on its cursor, its connection is not closed as long as it has an open, and so the driver
keeps what only calls on these two could change, such as the row that the cursor is on. -/
structure Holding.Untouched [Driver σ] (h : Holding) (r : Request σ) (s t : Session σ) : Prop where
  calls : s.Makes (fun call => ¬ call.On h) t
  opens : 0 < s.openCount h.connection →
    s.Makes (fun call => ∀ mode, call ≠ .closeConnection h.connection mode) t
  driver {P : σ → Prop} (calls : ∀ call : NativeCall, ¬ call.On h → Keeps P call.effect)
    (hooks : ∀ l ∈ r.logger, l.EachHook (Keeps P)) : Preserves P s t

namespace Statement

section Fetching

variable [Driver σ] {shape : Shape σ α} {s : Statement} {mode : Mode} {r : Request σ}
  {start t : Session σ}

omit [Driver σ] in
theorem reach_asks {logger : Option (Logger σ)} {info : ExecutionInfo} {c : NativeCommand}
    {reached : Reached σ α}
    (reaches : (reach shape mode logger info c).observe start = (.ok reached, t))
    (native : reached.native = true) :
    ∃ before, t.calls = before ++ [.execute shape.method c mode] := by
  rw [reach_apply] at reaches
  obtain ⟨offer, u, -, supplies⟩ := Attempt.ok_of_bind_ok reaches
  unfold supplying at supplies
  cases supplied : offer.result with
  | hasResult a =>
    rw [supplied] at supplies
    cases supplies
    cases native
  | noResult =>
    rw [supplied] at supplies
    obtain ⟨_, v, -, asks⟩ := Attempt.ok_of_bind_ok supplies
    obtain ⟨a, w, asks, same⟩ := Attempt.ok_of_bind_ok asks
    cases same
    have issues := Engine.issues_call (.execute shape.method c mode)
      ((shape.native c).perform mode) v
    rw [← Attempt.observe_call, asks] at issues
    exact ⟨v.calls, issues.calls⟩

theorem fetched_of_execute {e : Execution α}
    (executes : (s.execute shape mode r).observe start = (.ok e, t)) :
    ∃ setting reached u,
      (s.fetching shape mode r).observe start = (.ok (setting, e.command, reached), u) ∧
      (conclude shape mode e.command reached).observe u = (.ok e.output, t) ∧
      setting.info = e.info ∧
      (reached.native = true →
        ∃ before, u.calls = before ++ [.execute shape.method e.command mode]) := by
  have course := s.execute_course shape mode r start
  rw [executes] at course
  cases course with
  | @performed setting c opened output u v w _ enters prepares opens performs =>
    have opening := opening_of_prepared enters prepares opens
    rw [run_eq] at performs
    obtain ⟨reached, x, reaches, concludes⟩ := Attempt.ok_of_bind_ok performs
    refine ⟨setting, reached, x, ?_, concludes, rfl, reach_asks reaches⟩
    exact (Attempt.observe_bind_ok opening _).trans (Attempt.observe_bind_ok reaches _)

end Fetching

/-- An execution for a reader went through: the driver or a hook gave a cursor, the executed event
was raised, and with declared columns the cursor is loaded. What the reader is bound to is all of
this execution. -/
structure Delivers [Driver σ] (s : Statement) (mode : Mode) (r : Request σ) (start : Session σ)
    (b : ReaderBinding σ) (u : Session σ) : Prop where
  delivered : (s.openCursor mode r).observe start = (.ok b, u)
  results : ∃ setting reached cursor v w,
    (s.fetching .reader mode r).observe start = (.ok (setting, b.command, reached), v) ∧
    (reached.native = true → ∃ before, v.calls = before ++ [.execute .reader b.command mode]) ∧
    (conclude .reader mode b.command reached).observe v = (.ok cursor, w) ∧
    match r.columns with
    | none => b.cursor = .native cursor ∧ u = w
    | some columns => ∃ buffer, b.cursor = .buffered buffer ∧
      (cursor.load mode columns r.detailedErrors).observe w = (.ok buffer, u)
  command : ∃ d hooked, ((s.creation .reader mode r).observe start).1 = .ok (d, hooked) ∧
    b.command.Same d ∧ d.Held r.connection true start u
  info : b.info = r.info start.nextTicket .reader mode
  logger : b.logger = r.logger

section Delivering

variable [Driver σ] {s : Statement} {mode : Mode} {r : Request σ} {start u : Session σ}

theorem info_of_execute {e : Execution Cursor} {t : Session σ}
    (executes : (s.execute .reader mode r).observe start = (.ok e, t)) :
    e.info = r.info start.nextTicket .reader mode := by
  have course := s.execute_course .reader mode r start
  rw [executes] at course
  cases course with
  | performed enters _ _ _ => exact (enter_ok enters).1

theorem delivers_of_openCursor {b : ReaderBinding σ}
    (opens : (s.openCursor mode r).observe start = (.ok b, u)) : s.Delivers mode r start b u := by
  obtain ⟨d, hooked, created, -, same, -, holds⟩ := openCursor_held opens
  have delivery := s.openCursor_delivery mode r start
  rw [opens] at delivery
  cases delivery with
  | direct executes undeclared =>
    obtain ⟨setting, reached, v, fetched, concludes, -, asks⟩ := fetched_of_execute executes
    refine ⟨opens, ⟨setting, reached, _, v, u, fetched, asks, concludes, ?_⟩,
      ⟨d, hooked, created, same, holds⟩, info_of_execute executes, rfl⟩
    rw [undeclared]
    exact ⟨rfl, rfl⟩
  | @loaded cursor c info columns buffer w _ executes declared loads =>
    obtain ⟨setting, reached, v, fetched, concludes, -, asks⟩ := fetched_of_execute executes
    refine ⟨opens, ⟨setting, reached, cursor, v, w, fetched, asks, concludes, ?_⟩,
      ⟨d, hooked, created, same, holds⟩, info_of_execute executes, rfl⟩
    rw [declared]
    exact ⟨buffer, rfl, loads⟩

end Delivering

end Statement

namespace DataReader

theorem lasting_ticket : Lasting (ticket : DataReader σ → Option Ticket) where
  counted r o := by
    unfold counted
    split <;> rfl
  withBuffer r b := by
    unfold withBuffer
    split <;> rfl

theorem ticket_dispose [Driver σ] (mode : Mode) (r : DataReader σ) (s : Session σ) :
    (r.dispose mode s).1.2.ticket = r.ticket := by
  unfold dispose
  cases phase : r.phase with
  | bound b =>
    change r.retired.ticket = r.ticket
    unfold retired
    rw [phase]
  | _ => rfl

end DataReader

/-- The ticket of the execution that the command's reader is of, or was of. -/
def Command.ticket? (c : Command σ) : Option Ticket := c.reader.bind (·.ticket)

theorem Command.holding_getD (c : Command σ) : (c.reader.getD {}).holding? = c.holding? := by
  unfold holding?
  cases c.reader <;> rfl

/-- All readers are of executions that were begun. -/
def Workspace.Ticketed (w : Workspace σ) : Prop :=
  ∀ name c, Named.find? name w.commands = some c →
    ∀ ticket ∈ c.ticket?, ticket < w.session.nextTicket

namespace Workspace.Ticketed

variable {w w' : Workspace σ} (ticketed : w.Ticketed)
  (onward : w.session.nextTicket ≤ w'.session.nextTicket)
include ticketed onward

theorem of_commands (same : w'.commands = w.commands) : w'.Ticketed :=
  fun name c found ticket of =>
    Nat.lt_of_lt_of_le (ticketed name c (same ▸ found) ticket of) onward

theorem inserted {name : String} {c : Command σ}
    (commands : w'.commands = Named.insert name c w.commands)
    (of : ∀ ticket ∈ c.ticket?, ticket < w'.session.nextTicket) : w'.Ticketed := by
  intro other c' found ticket member
  rw [commands] at found
  by_cases same : other = name
  · rw [same, Named.find?_insert_same] at found
    cases found
    exact of ticket member
  · rw [Named.find?_insert_of_ne same] at found
    exact Nat.lt_of_lt_of_le (ticketed other c' found ticket member) onward

theorem erased {name : String} (commands : w'.commands = Named.erase name w.commands) :
    w'.Ticketed := by
  intro other c' found ticket member
  rw [commands] at found
  by_cases same : other = name
  · rw [same, Named.find?_erase_same] at found
    cases found
  · rw [Named.find?_erase_of_ne same] at found
    exact Nat.lt_of_lt_of_le (ticketed other c' found ticket member) onward

end Workspace.Ticketed

namespace Operation

variable [Driver σ] {w : Workspace σ}

theorem onward_perform (op : Operation σ) (w : Workspace σ) :
    w.session.nextTicket ≤ (op.perform w).2.session.nextTicket :=
  have accounts := op.perform_accounts w
  Nat.le_trans accounts.executes.accounts.onward.nextTicket accounts.disposes.onward.nextTicket

omit [Driver σ] in
theorem ticketed_withReader (ticketed : w.Ticketed) {name : String}
    {act : DataReader σ → Engine σ (Answer σ × DataReader σ)}
    (keeps : ∀ r s, (act r s).1.2.ticket = r.ticket)
    (onward : w.session.nextTicket ≤ (Program.withReader name act w).2.session.nextTicket) :
    (Program.withReader name act w).2.Ticketed := by
  unfold Program.withReader at onward ⊢
  cases found : Named.find? name w.commands with
  | none =>
    rw [withCommand_of_none found]
    exact ticketed
  | some c =>
    rw [withCommand_of_find found] at onward ⊢
    cases reader : c.reader with
    | none => exact ticketed
    | some r =>
      rw [reader] at onward
      refine ticketed.inserted onward rfl fun ticket of => ?_
      refine Nat.lt_of_lt_of_le (ticketed name c found ticket ?_) onward
      rw [Command.ticket?, reader, Option.mem_def, Option.bind_some, ← keeps r w.session]
      exact of

theorem executeReader_of_find {name : String} {c : Command σ}
    (found : Named.find? name w.commands = some c) (r : Request σ) (mode : Mode) :
    (executeReader name r mode).perform w =
      (.bound (c.executeReader mode r w.session).1.1, { w with
        session := (c.executeReader mode r w.session).2
        commands := Named.insert name (c.executeReader mode r w.session).1.2 w.commands }) :=
  withCommand_of_find found _

theorem ticketed_executeReader (ticketed : w.Ticketed) (name : String) (r : Request σ)
    (mode : Mode) : ((executeReader name r mode).perform w).2.Ticketed := by
  have onward := onward_perform (executeReader name r mode) w
  cases found : Named.find? name w.commands with
  | none =>
    have ends : (executeReader name r mode).perform w = (.noCommand, w) :=
      withCommand_of_none found _
    rw [ends]
    exact ticketed
  | some c =>
    rw [executeReader_of_find found] at onward ⊢
    refine ticketed.inserted onward rfl fun ticket of => ?_
    rw [Command.executeReader_apply] at onward of ⊢
    rcases opens : (c.statement.openCursor mode r).observe w.session with ⟨failure | b, t⟩
    all_goals rw [opens] at onward of
    · exact Nat.lt_of_lt_of_le (ticketed name c found ticket of) onward
    · cases of
      have executes := c.statement.openCursor_executes mode r w.session
      obtain ⟨same, later⟩ := executes.ticket b.info (Statement.openCursor_begins opens)
      rw [opens] at later
      rw [same]
      exact Nat.lt_of_lt_of_le later ((c.reader.getD {}).rebind_accounts mode b t).onward.nextTicket

theorem ticketed_perform (ticketed : w.Ticketed) (op : Operation σ) :
    (op.perform w).2.Ticketed := by
  have onward := op.onward_perform w
  have idle (same : (op.perform w).2.commands = w.commands) : (op.perform w).2.Ticketed :=
    ticketed.of_commands onward same
  have transactional {name : String} {act : Transaction σ → Program σ (Answer σ)}
      (acts : ∀ t, (act t w).2.commands = w.commands) :
      (Program.withTransaction name act w).2.commands = w.commands :=
    Program.withTransaction_cases (P := fun x => x.2.commands = w.commands) rfl fun t _ => acts t
  have commanded {name : String} {act : Command σ → Program σ (Answer σ)}
      (acts : ∀ c, (act c w).2.commands = w.commands) :
      (Program.withCommand name act w).2.commands = w.commands :=
    Program.withCommand_cases (P := fun x => x.2.commands = w.commands) rfl fun c _ => acts c
  cases op with
  | limitTrace limit => exact idle rfl
  | setCancelled reason => exact idle rfl
  | openNative c mode => exact idle rfl
  | closeNative c mode => exact idle rfl
  | openConnection c mode => exact idle rfl
  | closeConnection c mode => exact idle rfl
  | begin name c isolation mode => exact idle (idles_keepBegun _ _ _).commands
  | adopt name c native mode => exact idle (idles_keepBegun _ _ _).commands
  | complete name completion mode => exact idle (transactional fun _ => rfl)
  | disposeTransaction name mode => exact idle (transactional fun _ => rfl)
  | dropTransaction name => exact idle (transactional fun _ => rfl)
  | declare name s =>
    refine ticketed.inserted onward (congrArg (·.2.commands) (declare_apply name s w)) ?_
    exact fun ticket of => by cases of
  | populate name s =>
    refine Program.withCommand_cases (P := fun x =>
      w.session.nextTicket ≤ x.2.session.nextTicket → x.2.Ticketed) (fun _ => ticketed)
      (fun c found onward => ?_) onward
    exact ticketed.inserted onward rfl (ticketed name c found)
  | dropCommand name =>
    exact Program.withCommand_cases (P := fun x =>
      w.session.nextTicket ≤ x.2.session.nextTicket → x.2.Ticketed) (fun _ => ticketed)
      (fun c found onward => ticketed.erased onward rfl) onward
  | executeNonQuery name r mode => exact idle (commanded fun _ => rfl)
  | executeScalar name r mode => exact idle (commanded fun _ => rfl)
  | executeReader name r mode => exact ticketed_executeReader ticketed name r mode
  | createCommand name method r => exact idle (commanded fun _ => rfl)
  | read name mode =>
    exact ticketed_withReader ticketed (DataReader.lasting_ticket.read mode) onward
  | nextResult name mode =>
    exact ticketed_withReader ticketed (DataReader.lasting_ticket.nextResult mode) onward
  | getValue name ordinal => exact ticketed_withReader ticketed (fun _ _ => rfl) onward
  | isNull name ordinal => exact ticketed_withReader ticketed (fun _ _ => rfl) onward
  | columnName name ordinal => exact ticketed_withReader ticketed (fun _ _ => rfl) onward
  | drain name => exact ticketed_withReader ticketed DataReader.lasting_ticket.drain onward
  | disposeReader name mode =>
    exact ticketed_withReader ticketed (DataReader.ticket_dispose mode) onward

end Operation

theorem Program.ticketed_run [Driver σ] {w : Workspace σ} (ticketed : w.Ticketed)
    (ops : List (Operation σ)) : (run ops w).2.Ticketed := by
  induction ops generalizing w with
  | nil => exact ticketed
  | cons op ops ih =>
    rw [run_cons]
    exact ih (Operation.ticketed_perform ticketed op)

theorem Session.Accounts.elsewhere {s t : Session σ} {info : Option ExecutionInfo} {raised : Prop}
    (accounts : s.Accounts info raised t) {ticket : Ticket}
    (other : ∀ i ∈ info, ticket ≠ i.ticket) : t.commandIds ticket = s.commandIds ticket := by
  cases info with
  | none => rw [accounts.commandIds]
  | some info =>
    rcases accounts with ⟨_, silent⟩ | ⟨_, speaks⟩
    · rw [silent.commandIds]
    · rw [speaks.commandIds, commandIds_identified]
      exact if_neg (other info rfl)

namespace Command

variable [Driver σ] {c : Command σ} {mode : Mode} {r : Request σ} {s t u : Session σ}

/-- An execution for a reader that failed, and not because of the reader before. What this one holds
is not touched, every count of opens is what it was, and the identifier of its execution too. -/
structure Kept (c : Command σ) (mode : Mode) (r : Request σ) (failure : Failure)
    (s t : Session σ) : Prop where
  fails : ((c.statement.openCursor mode r).observe s).1 = .error failure
  untouched {h : Holding} (holds : c.holding? = some h) : h.Untouched r s t
  opens : t.openCount = s.openCount
  identifier {ticket : Ticket} (of : c.ticket? = some ticket) :
    t.commandIds ticket = s.commandIds ticket

/-- An execution for a reader that went through. What the reader before holds is not touched until
the new results are there, and then all of it is released, once. -/
structure Replaced (c : Command σ) (mode : Mode) (r : Request σ) (s : Session σ)
    (b : ReaderBinding σ) (u t : Session σ) : Prop where
  delivers : c.statement.Delivers mode r s b u
  untouched {h : Holding} (holds : c.holding? = some h) : h.Untouched r s u
  released : match c.holding? with
    | some h => h.Released mode u t
    | none => u.Issues [] t
  distinct : c.ticket? ≠ some b.info.ticket

theorem kept_of_error {failure : Failure}
    (fresh : ∀ h, c.holding? = some h → c.statement.Fresh mode r h s)
    (begun : ∀ ticket ∈ c.ticket?, ticket < s.nextTicket)
    (fails : (c.statement.openCursor mode r).observe s = (.error failure, t)) :
    c.Kept mode r failure s t := by
  have settled := Statement.openCursor_settled fails
  refine ⟨congrArg Prod.fst fails, fun {h} holds => ⟨?_, settled.keepsOpen, fun calls hooks => ?_⟩,
    Statement.settled_openCount settled, fun {ticket} of => ?_⟩
  · have makes := (Statement.owns_makes (fresh h holds)).openCursor
    rwa [fails] at makes
  · have preserves := (Statement.owns_preserves (fresh h holds) calls hooks).openCursor
    rwa [fails] at preserves
  · have executes := c.statement.openCursor_executes mode r s
    rw [fails] at executes
    refine executes.accounts.elsewhere fun i member same => ?_
    have early := begun ticket of
    rw [same, (executes.ticket i member).1] at early
    exact Nat.lt_irrefl _ early

theorem replaced_of_ok {b : ReaderBinding σ}
    (fresh : ∀ h, c.holding? = some h → c.statement.Fresh mode r h s)
    (begun : ∀ ticket ∈ c.ticket?, ticket < s.nextTicket)
    (opens : (c.statement.openCursor mode r).observe s = (.ok b, u)) :
    c.Replaced mode r s b u ((c.reader.getD {}).rebind mode b u).2 := by
  have delivers := Statement.delivers_of_openCursor opens
  have released := ((c.reader.getD {}).letGo_rebind mode b u).released
  rw [c.holding_getD] at released
  refine ⟨delivers, fun {h} holds => ⟨?_, fun _ => ?_, fun calls hooks => ?_⟩, released,
    fun same => ?_⟩
  · have makes := (Statement.owns_makes (fresh h holds)).openCursor
    rwa [opens] at makes
  · obtain ⟨d, -, -, -, held⟩ := delivers.command
    exact held.keepsOpen
  · have preserves := (Statement.owns_preserves (fresh h holds) calls hooks).openCursor
    rwa [opens] at preserves
  · have early := begun _ same
    rw [delivers.info] at early
    exact Nat.lt_irrefl _ early

end Command

namespace Program

variable [Driver σ]

/-- Whatever was done before, an execution for a reader that fails leaves the reader of the
execution before as it was, with all that it holds. One that goes through returns a new reader in
its place, and releases what the one before held, once and when its own results are there, however
that ends. -/
theorem executeReader_keeps_or_replaces (first : Workspace σ) (unused : first.commands = [])
    (ops : List (Operation σ)) {w : Workspace σ} (reaches : (run ops first).2 = w) {name : String}
    {c : Command σ} (found : Named.find? name w.commands = some c) {mode : Mode} {r : Request σ}
    (fresh : ∀ h, c.holding? = some h → c.statement.Fresh mode r h w.session) :
    match (Operation.executeReader name r mode).perform w with
    | (.bound (.error failure), w') => Named.find? name w'.commands = some c ∧
      c.Kept mode r failure w.session w'.session
    | (.bound (.ok reader), w') => ∃ b u, reader = .ofBinding b ∧
      Named.find? name w'.commands = some { c with reader := reader } ∧
      c.Replaced mode r w.session b u w'.session
    | _ => False := by
  have unticketed : first.Ticketed := fun name c found => by
    rw [unused] at found
    cases found
  have begun : ∀ ticket ∈ c.ticket?, ticket < w.session.nextTicket := by
    subst reaches
    exact ticketed_run unticketed ops name c found
  rw [Operation.executeReader_of_find found, Command.executeReader_apply]
  rcases opens : (c.statement.openCursor mode r).observe w.session with ⟨failure | b, u⟩
  · exact ⟨Named.find?_insert_same _ _ _, Command.kept_of_error fresh begun opens⟩
  · exact ⟨b, u, rfl, Named.find?_insert_same _ _ _, Command.replaced_of_ok fresh begun opens⟩

/-- While a reader is on a row, its command is executed again, and that fails. -/
theorem executeReader_keeps_or_replaces_of_failing_call :
    let faults : NativeMethod → List (Option Fault) := fun m =>
      if m = .executeReader then [none, some (.error (.custom "boom"))] else []
    let script : Script := { connections := fun _ => { faults } }
    let r : Request Script := { connection := ⟨0⟩, logger := none, detailedErrors := false }
    let ops : List (Operation Script) :=
      [.declare "q" ⟨"SELECT 1", []⟩, .executeReader "q" r .blocking, .read "q" .blocking]
    let w := (run ops (.begun ⟨script, none⟩)).2
    let w' := ((Operation.executeReader "q" r .async).perform w).2
    ∃ c h, Named.find? "q" w.commands = some c ∧ c.holding? = some h ∧
      Named.find? "q" w'.commands = some c ∧ h.Untouched r w.session w'.session := by
  intro faults script r ops w w'
  have reaches : (run ops (.begun ⟨script, none⟩)).2 = w := rfl
  have holding : ((Named.find? "q" w.commands).bind (·.holding?)).map (·.command.handle) =
      some 0 := by decide +kernel +zetaReduce
  have created : (Named.find? "q" w.commands).all (fun c =>
      ((c.statement.creation .reader .async r).observe w.session).1.toOption.all
        (·.1.handle = 1)) = true := by decide +kernel +zetaReduce
  have unexecuted : (Named.find? "q" w.commands).all (fun c =>
      !((c.statement.execute .reader .async r).observe w.session).1.isOk) = true := by
    decide +kernel +zetaReduce
  have unopened : (Named.find? "q" w.commands).all (fun c =>
      !((c.statement.openCursor .async r).observe w.session).1.isOk) = true := by
    decide +kernel +zetaReduce
  clear_value w
  cases found : Named.find? "q" w.commands with
  | none =>
    rw [found] at holding
    cases holding
  | some c =>
    rw [found] at holding created unexecuted unopened
    obtain ⟨h, holds, handle⟩ := Option.map_eq_some_iff.1 holding
    have fresh : ∀ h', c.holding? = some h' → c.statement.Fresh .async r h' w.session := by
      intro h' holds'
      cases (holds : c.holding? = some h).symm.trans holds'
      refine ⟨fun {d hooked} creates same => ?_, fun {e} executes => ?_⟩
      · rw [Option.all_some, creates] at created
        have second : d.handle = 1 := of_decide_eq_true created
        exact absurd (second.symm.trans (same.2.trans handle)) (by decide)
      · rw [Option.all_some, executes] at unexecuted
        cases unexecuted
    have ends := executeReader_keeps_or_replaces (.begun ⟨script, none⟩) rfl ops reaches found fresh
    split at ends
    · next failure x performs =>
      have after : w' = x := congrArg Prod.snd performs
      rw [after]
      exact ⟨c, h, rfl, holds, ends.1, ends.2.untouched holds⟩
    · next reader x performs =>
      obtain ⟨b, u, -, -, replaced⟩ := ends
      rw [Option.all_some, replaced.delivers.delivered] at unopened
      cases unopened
    · exact ends.elim

end Program

end SqlExecution
