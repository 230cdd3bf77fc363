import SqlExecution.Program

/-! Comparing two runs. A blur says what a comparison overlooks, and each kind of data has its
blurred form, in which what is overlooked is gone: two things are alike if their blurred forms are
equal. -/

namespace SqlExecution

variable {σ α : Type}

/-- What a comparison of two runs overlooks. -/
structure Blur where
  /-- Whether the blocking or the asynchronous form of an operation was used. -/
  forms : Bool
  /-- Loggers, and all that only they make of a run: events, trace records, identifiers of
  executions. -/
  diagnostics : Bool

namespace Blur

/-- The comparison that overlooks nothing. -/
def sharp : Blur := ⟨false, false⟩

variable (b : Blur)

def mode (m : Mode) : Mode := if b.forms then .blocking else m

/-- The mark of asynchronous events. -/
def mark (isAsync : Bool) : Bool := !b.forms && isAsync

/-- What belongs to diagnostics, or a blank in its place. -/
def detail (blank a : α) : α := if b.diagnostics then blank else a

def call : NativeCall → NativeCall
  | .openConnection id m => .openConnection id (b.mode m)
  | .closeConnection id m => .closeConnection id (b.mode m)
  | .createCommand id => .createCommand id
  | .begin id m isolation => .begin id (b.mode m) isolation
  | .commit t m => .commit t (b.mode m)
  | .rollback t m => .rollback t (b.mode m)
  | .execute method c m => .execute method c (b.mode m)
  | .clearParameters c => .clearParameters c
  | .dispose c m => .dispose c (b.mode m)
  | .columnName c ordinal => .columnName c ordinal
  | .read c m => .read c (b.mode m)
  | .nextResult c m => .nextResult c (b.mode m)
  | .getValue c ordinal => .getValue c ordinal
  | .closeCursor c m => .closeCursor c (b.mode m)

def commandEvent (e : CommandEvent) : CommandEvent := { e with isAsync := b.mark e.isAsync }

def transactionEvent (e : TransactionEvent) : TransactionEvent :=
  { e with isAsync := b.mark e.isAsync }

def subject : Subject → Subject
  | .command e c => .command (b.commandEvent e) c
  | .transaction e => .transaction (b.transactionEvent e)

def delivery (d : Delivery) : Delivery :=
  { d with mode := b.mode d.mode, subject := b.subject d.subject }

def traceValue : TraceValue → TraceValue
  | .bool isAsync => .bool (b.mark isAsync)
  | v => v

/-- Trace records are marked by a field of this name. -/
def field (f : String × TraceValue) : String × TraceValue :=
  if f.1 = "is_async" then (f.1, b.traceValue f.2) else f

def record (r : TraceRecord) : TraceRecord := { r with fields := r.fields.map b.field }

/-- Events and trace records are nothing to a comparison that overlooks diagnostics. -/
def shown? : Entry → Option Entry
  | .native c => some (.native (b.call c))
  | .hook d => b.detail none (some (.hook (b.delivery d)))
  | .trace r => b.detail none (some (.trace (b.record r)))
  | .wrapped w => some (.wrapped { w with hasLogger := b.detail false w.hasLogger })
  | .request text => some (.request text)

def moment? (m : Moment σ) : Option (Moment σ) := (b.shown? m.entry).map (⟨m.scene, ·⟩)

def logger (l : Option (Logger σ)) : Option (Logger σ) := b.detail none l

def connection (c : Connection σ) : Connection σ := { c with logger := b.logger c.logger }

def session (s : Session σ) : Session σ where
  scene := s.scene
  traceLimit := b.detail none s.traceLimit
  connections id := b.connection (s.connections id)
  commandIds t := b.detail none (s.commandIds t)
  nextTicket := s.nextTicket
  nextSerial := s.nextSerial
  nextCommand := b.detail 0 s.nextCommand
  journal := s.journal.filterMap b.moment?

def info (i : ExecutionInfo) : ExecutionInfo := { i with mode := b.mode i.mode }

def execution (e : Execution α) : Execution α := { e with info := b.info e.info }

def binding (x : ReaderBinding σ) : ReaderBinding σ :=
  { x with logger := b.logger x.logger, info := b.info x.info }

def phase : ReaderPhase σ → ReaderPhase σ
  | .uninitialized => .uninitialized
  | .bound x => .bound (b.binding x)
  | .disposed => .disposed

def reader (r : DataReader σ) : DataReader σ := { r with phase := b.phase r.phase }

def command (c : Command σ) : Command σ := { c with reader := c.reader.map b.reader }

def transaction (t : Transaction σ) : Transaction σ := { t with logger := b.logger t.logger }

def request (r : Request σ) : Request σ := { r with logger := b.logger r.logger }

def answer : Answer σ → Answer σ
  | .begun o => .begun (o.map b.transaction)
  | .bound o => .bound (o.map b.reader)
  | .created o id => .created o (b.detail none id)
  | a => a

def workspace (w : Workspace σ) : Workspace σ where
  session := b.session w.session
  transactions := w.transactions.map fun e => (e.1, b.transaction e.2)
  commands := w.commands.map fun e => (e.1, b.command e.2)

end Blur

/-- The asynchronous form does what the blocking form does. -/
def Dual.Even (d : Dual σ α) : Prop := d.perform .async = d.perform .blocking

/-- Hooks that ignore whether the event is asynchronous, and are the same in both forms. -/
structure Around.Even (a : Around σ α) : Prop where
  executing (c : NativeCommand) (event : CommandEvent) (r : Interception α) (isAsync : Bool) :
    a.executing c { event with isAsync } r = a.executing c event r ∧ (a.executing c event r).Even
  executed (c : NativeCommand) (event : CommandEvent) (r : α) (isAsync : Bool) :
    a.executed c { event with isAsync } r = a.executed c event r ∧ (a.executed c event r).Even

structure CommandInterceptor.Even (i : CommandInterceptor σ) : Prop where
  creating (event : CommandEvent) (r : Interception NativeCommand) (isAsync : Bool) :
    i.creating { event with isAsync } r = i.creating event r
  created (event : CommandEvent) (c : NativeCommand) (isAsync : Bool) :
    i.created { event with isAsync } c = i.created event c
  nonQuery : i.nonQuery.Even
  scalar : i.scalar.Even
  reader : i.reader.Even
  failed (mode : Mode) (c : NativeCommand) (event : CommandEvent) (e : Error) (isAsync : Bool) :
    i.failed mode c { event with isAsync } e = i.failed .blocking c event e
  disposing (mode : Mode) (c : NativeCommand) (event : CommandEvent) (d : Disposal)
      (isAsync : Bool) :
    i.disposing mode c { event with isAsync } d = i.disposing .blocking c event d

structure TransactionInterceptor.Even (i : TransactionInterceptor σ) : Prop where
  starting (event : TransactionEvent) (r : Interception NativeTransaction) (isAsync : Bool) :
    i.starting { event with isAsync } r = i.starting event r ∧ (i.starting event r).Even
  started (event : TransactionEvent) (t : NativeTransaction) (isAsync : Bool) :
    i.started { event with isAsync } t = i.started event t ∧ (i.started event t).Even

namespace Logger

structure Even (l : Logger σ) : Prop where
  command : ∀ i ∈ l.commandInterceptors, i.Even
  transaction : ∀ i ∈ l.transactionInterceptors, i.Even

/-- Every hook is left at its default, which passes through what it is given. -/
structure Still (l : Logger σ) : Prop where
  command : ∀ i ∈ l.commandInterceptors, i = .passThrough i.name
  transaction : ∀ i ∈ l.transactionInterceptors, i = .passThrough i.name

end Logger

/-- A driver whose asynchronous calls do what the blocking calls do. -/
structure Driver.Even (σ : Type) [Driver σ] : Prop where
  openConnection (id : ConnectionId) : (openConnection id : Dual σ Unit).Even
  closeConnection (id : ConnectionId) : (closeConnection id : Dual σ Unit).Even
  begin (id : ConnectionId) (isolation : IsolationLevel) :
    (begin id isolation : Dual σ NativeTransaction).Even
  commit (t : NativeTransaction) : (commit t : Dual σ Unit).Even
  rollback (t : NativeTransaction) : (rollback t : Dual σ Unit).Even
  executeNonQuery (c : NativeCommand) : (executeNonQuery c : Dual σ Int64).Even
  executeScalar (c : NativeCommand) : (executeScalar c : Dual σ (Option Value)).Even
  executeReader (c : NativeCommand) : (executeReader c : Dual σ Cursor).Even
  dispose (c : NativeCommand) : (dispose c : Dual σ Unit).Even
  read (c : Cursor) : (read c : Dual σ Bool).Even
  nextResult (c : Cursor) : (nextResult c : Dual σ Bool).Even
  closeCursor (c : Cursor) : (closeCursor c : Dual σ Unit).Even

namespace Blur

/-- The loggers of one of two runs that a comparison can do with. -/
structure Suits (b : Blur) (l : Logger σ) : Prop where
  even : b.forms = true → l.Even
  still : b.diagnostics = true → l.Still

/-- A logger of one run and what stands in its place in the other. -/
structure Heard (b : Blur) (l l' : Option (Logger σ)) : Prop where
  suits : ∀ x ∈ l, b.Suits x
  same : l' = b.logger l

variable {b : Blur}

section Detail

variable {blank a a' : α}

theorem detail_of_overlooked (overlooked : b.diagnostics = true) : b.detail blank a = blank := by
  simp [detail, overlooked]

theorem detail_of_shown (shown : b.diagnostics = false) : b.detail blank a = a := by
  simp [detail, shown]

theorem eq_of_detail (shown : b.diagnostics = false) (same : b.detail blank a = b.detail blank a') :
    a = a' := by simpa [detail, shown] using same

theorem detail_detail : b.detail blank (b.detail blank a) = b.detail blank a := by
  unfold detail
  split <;> rfl

end Detail

theorem isAsync_mode (m : Mode) : (b.mode m).isAsync = b.mark m.isAsync := by
  unfold mode mark
  cases b.forms <;> simp [Mode.isAsync]

theorem mark_isAsync {m m' : Mode} (same : b.mode m = b.mode m') :
    b.mark m.isAsync = b.mark m'.isAsync := by rw [← isAsync_mode, same, isAsync_mode]

theorem Heard.nothing : b.Heard (none : Option (Logger σ)) none where
  suits x member := by cases member
  same := by simp [logger, detail]

theorem Heard.eq_none {l l' : Option (Logger σ)} (heard : b.Heard l l')
    (overlooked : b.diagnostics = true) : l' = none :=
  heard.same.trans (detail_of_overlooked overlooked)

theorem Heard.eq_of_shown {l l' : Option (Logger σ)} (heard : b.Heard l l')
    (shown : b.diagnostics = false) : l' = l := heard.same.trans (detail_of_shown shown)

/-- What two loggers that stand for each other can be: none at all, the same, or one that passes
through what it is given in place of none. -/
inductive Listeners (b : Blur) : Option (Logger σ) → Option (Logger σ) → Prop where
  | neither : Listeners b none none
  | both (l : Logger σ) (shown : b.diagnostics = false) (even : b.forms = true → l.Even) :
      Listeners b (some l) (some l)
  | first (l : Logger σ) (overlooked : b.diagnostics = true) (still : l.Still) :
      Listeners b (some l) none

theorem Heard.listeners {l l' : Option (Logger σ)} (heard : b.Heard l l') : b.Listeners l l' := by
  cases shown : b.diagnostics with
  | false =>
    rw [heard.eq_of_shown shown]
    cases told : l with
    | none => exact .neither
    | some x => exact .both x shown (heard.suits x told).even
  | true =>
    rw [heard.eq_none shown]
    cases told : l with
    | none => exact .neither
    | some x => exact .first x shown ((heard.suits x told).still shown)

theorem Heard.logger {l l' : Option (Logger σ)} (heard : b.Heard l l') :
    b.logger l = b.logger l' := by
  rw [heard.same]
  exact detail_detail.symm

theorem Heard.filter {l l' : Option (Logger σ)} (heard : b.Heard l l') {p p' : Logger σ → Bool}
    (same : b.diagnostics = false → p = p') : b.Heard (l.filter p) (l'.filter p') where
  suits x member := heard.suits x (Option.mem_filter_iff.1 member).1
  same := by
    cases shown : b.diagnostics with
    | true =>
      rw [heard.eq_none shown]
      exact (detail_of_overlooked shown).symm
    | false =>
      rw [heard.eq_of_shown shown, ← same shown]
      exact (detail_of_shown shown).symm

end Blur

end SqlExecution
