import SqlExecution.Engine.Transaction
import SqlExecution.Proofs.Twins.Connections

/-! Transactions in two runs. -/

namespace SqlExecution

variable {σ α β : Type}

open Session Trace

namespace Blur

variable {b : Blur}

theorem sharp_heard (l : Option (Logger σ)) : sharp.Heard l l where
  suits _ _ := ⟨nofun, nofun⟩
  same := rfl

theorem eq_of_transaction {t t' : Transaction σ} (same : b.transaction t = b.transaction t') :
    ∃ logger, t' = { t with logger } ∧ b.logger t.logger = b.logger logger := by
  obtain ⟨connection, native, id, logger, owned, state, released⟩ := t
  obtain ⟨connection', native', id', logger', owned', state', released'⟩ := t'
  simp only [transaction, Transaction.mk.injEq] at same
  obtain ⟨rfl, rfl, rfl, loggers, rfl, rfl, rfl⟩ := same
  exact ⟨logger', rfl, loggers⟩

theorem hasLogger_eq {l l' : Option (Logger σ)} (same : b.logger l = b.logger l') :
    b.detail false l.isSome = b.detail false l'.isSome := by
  cases shown : b.diagnostics with
  | true => rw [detail_of_overlooked shown, detail_of_overlooked shown]
  | false => rw [eq_of_detail shown same]

end Blur

namespace Transaction

variable {b : Blur} {heeds : Prop}

theorem match_ensureNone (c : ConnectionId) :
    Attempt.Match b heeds (fun x => x) (ensureNone c : Attempt σ Unit) (ensureNone c) := by
  unfold ensureNone
  refine Attempt.match_get.bind fun u u' same => ?_
  rw [Blur.ambient_eq same c]
  cases (u'.connections c).ambient with
  | some a => exact Attempt.match_throw _
  | none => exact .pure rfl

theorem match_wrap (c : ConnectionId) (native : NativeTransaction) (serial : TransactionId)
    (owned : Bool) :
    Engine.Match b heeds b.transaction (wrap c native serial owned : Engine σ (Transaction σ))
      (wrap c native serial owned) := by
  have current : Engine.Match (σ := σ) b heeds (fun x => x) _ _ :=
    Engine.match_modifyConnection c (f := fun k => { k with ambient := some ⟨native, serial⟩ })
      (fun _ _ same => congrArg (fun k : Connection σ =>
        { k with ambient := some ⟨native, serial⟩ }) same) fun _ => rfl
  unfold wrap
  refine current.andThen fun _ => (Engine.match_connection c).bind fun k k' same => ?_
  have loggers : b.logger k.logger = b.logger k'.logger := (congrArg Connection.logger same :)
  have reports : k.reportsWrapping = k'.reportsWrapping :=
    (congrArg Connection.reportsWrapping same :)
  have wrapped : ∀ _ : Unit, Engine.Match b heeds b.transaction
      (pure { connection := c, native, id := serial, logger := k.logger, owned } : Engine σ _)
      (pure { connection := c, native, id := serial, logger := k'.logger, owned }) :=
    fun _ => .pure (by simp only [Blur.transaction, loggers])
  rw [reports]
  refine .ite (fun _ => ?_) fun _ => wrapped ()
  refine (Engine.match_record ?_).andThen wrapped
  simp only [Blur.shown?, Blur.hasLogger_eq loggers]

variable [Driver σ] (even : b.forms = true → Driver.Even σ) {mode mode' : Mode}
  (forms : b.Forms heeds mode mode')

/-- Begin a native transaction, with the events of a logger. -/
def beginAs (mode : Mode) (c : ConnectionId) (isolation : IsolationLevel) (id : TransactionId)
    (logger : Option (Logger σ)) : Attempt σ NativeTransaction := do
  let begun : Attempt σ NativeTransaction :=
    Attempt.call (.begin c mode isolation) mode (Driver.begin c isolation)
  match ← Attempt.lift (Engine.raising Logger.raisesTransaction logger) with
  | none => begun
  | some logger =>
    let event : TransactionEvent := ⟨c, id, isolation, mode.isAsync⟩
    let native ← match ← logger.transactionStarting mode event with
      | .hasResult native => pure native
      | .noResult => begun
    logger.transactionStarted mode event native

/-- Commit or roll back natively; only success changes the wrapper. -/
def completeNatively (mode : Mode) (completion : Completion) (t : Transaction σ) :
    Engine σ (Outcome Unit × Transaction σ) := do
  match ← (Attempt.call (completion.note t.native mode) mode
    (completion.native t.native)).observe with
  | .ok () =>
    Engine.trace .debug transactionTarget (completion.participle ++ " transaction")
      [transactionField t.id, connectionField t.connection]
    clear mode { t with state := completion.state }
  | .error failure =>
    if let .error e := failure then
      Engine.trace .error transactionTarget ("Transaction " ++ completion.name ++ " failed")
        [transactionField t.id, connectionField t.connection, errorField e]
    return (.error failure, t)

include even forms

theorem match_beginAs {logger logger' : Option (Logger σ)} (heard : b.Heard logger logger')
    (c : ConnectionId) (isolation : IsolationLevel) (serial : TransactionId) :
    Attempt.Match b heeds (fun x => x) (beginAs mode c isolation serial logger)
      (beginAs mode' c isolation serial logger') := by
  have begun : Attempt.Match b heeds (fun x => x)
      (Attempt.call (.begin c mode isolation) mode (Driver.begin c isolation) : Attempt σ _)
      (Attempt.call (.begin c mode' isolation) mode' (Driver.begin c isolation)) :=
    Attempt.match_call (by simp only [Blur.call, forms.same])
      (forms.perform fun overlooked => (even overlooked).begin c isolation)
  refine Attempt.match_raising _ heard fun raised raised' heard => ?_
  cases heard.listeners with
  | neither => exact begun
  | both l shown hooks =>
    have events : b.transactionEvent ⟨c, serial, isolation, mode.isAsync⟩ =
        b.transactionEvent ⟨c, serial, isolation, mode'.isAsync⟩ := by
      simp only [Blur.transactionEvent, Blur.mark_isAsync forms.same]
    have started := Logger.match_transactionStarted hooks events forms
    refine (Logger.match_transactionStarting hooks events forms).andThen fun offered => ?_
    cases offered with
    | hasResult native => exact started native
    | noResult => exact begun.andThen started
  | first l overlooked still =>
    have heed (async : mode = .async) : heeds := forms.heeds (.inl async)
    have started : ∀ native, Attempt.Match b heeds (fun x => x)
        (l.transactionStarted mode ⟨c, serial, isolation, mode.isAsync⟩ native) (pure native) :=
      fun native => .of_idle (l.reveals_transactionStarted mode _ native)
        (l.idle_transactionStarted overlooked still heed _ native)
    have begins := begun.andThen started
    rw [bind_pure] at begins
    refine Attempt.Match.idleThen (l.reveals_transactionStarting mode _)
      (l.idle_transactionStarting overlooked still heed _) (fun offered => ?_) begins
    cases offered with
    | hasResult native => exact (started native).reveals
    | noResult => exact begins.reveals

theorem match_beginNative (c : ConnectionId) (isolation : IsolationLevel)
    (serial : TransactionId) :
    Attempt.Match b heeds (fun x => x)
      (beginNative mode c isolation serial : Attempt σ NativeTransaction)
      (beginNative mode' c isolation serial) := by
  have sharply : ∀ l : Option (Logger σ),
      Attempt.Obeys Reveals (beginAs mode c isolation serial l) :=
    fun l => (match_beginAs (b := .sharp) nofun (Blur.sharp_forms mode) (Blur.sharp_heard l) c
      isolation serial).reveals
  have asked : ∀ m, (beginNative m c isolation serial : Attempt σ NativeTransaction) =
      (do beginAs m c isolation serial ((← get).connections c).logger) := fun _ => rfl
  rw [asked, asked]
  exact Attempt.match_get_alike (fun u => sharply (u.connections c).logger) fun u u' alike =>
    match_beginAs even forms (alike.heard c) c isolation serial

theorem match_releaseAfterFailure (c : ConnectionId) :
    Engine.Match b heeds (fun x => x) (releaseAfterFailure mode c : Engine σ Unit)
      (releaseAfterFailure mode' c) :=
  (ConnectionId.match_releaseOutcome even forms c).andThen fun o => Engine.match_warn _ _ _ o

theorem match_start (c : ConnectionId) (isolation : IsolationLevel) :
    Attempt.Match b heeds b.transaction (start mode c isolation : Attempt σ (Transaction σ))
      (start mode' c isolation) := by
  refine (match_ensureNone c).andThen fun _ => (Attempt.match_checkpoint forms).andThen fun _ => ?_
  refine (ConnectionId.match_acquire even forms c).andThen fun _ => ?_
  refine (Attempt.match_lift Engine.match_mint).andThen fun serial => ?_
  refine (match_beginNative even forms c isolation ⟨serial⟩).outcomeThen fun begun => ?_
  cases begun with
  | ok native => exact Attempt.match_lift (match_wrap c native ⟨serial⟩ true)
  | error failure =>
    exact (Attempt.match_lift (match_releaseAfterFailure even forms c)).andThen fun _ =>
      Attempt.match_throw failure

theorem match_adopt (c : ConnectionId) (native : NativeTransaction) :
    Attempt.Match b heeds b.transaction (adopt mode c native : Attempt σ (Transaction σ))
      (adopt mode' c native) := by
  refine (match_ensureNone c).andThen fun _ => ?_
  refine (ConnectionId.match_acquire even forms c).andThen fun _ => ?_
  refine (Attempt.match_lift Engine.match_mint).andThen fun serial => ?_
  refine (Attempt.match_trace _ _ _ rfl).andThen fun _ => ?_
  exact Attempt.match_lift (match_wrap c native ⟨serial⟩ false)

section Ending

variable {t t' : Transaction σ} (same : b.transaction t = b.transaction t')
include same

theorem match_clear :
    Engine.Match b heeds (Prod.map (fun x => x) b.transaction) (t.clear mode) (t'.clear mode') := by
  obtain ⟨logger, rfl, loggers⟩ := Blur.eq_of_transaction same
  have ceases : Engine.Match (σ := σ) b heeds (fun x => x) _ _ :=
    Engine.match_modifyConnection t.connection
      (f := fun k => if k.ambient.any (·.id = t.id) then { k with ambient := none } else k)
      (fun k k' same => ?_) fun k => by split <;> rfl
  · unfold clear
    refine ceases.andThen fun _ => .ite (fun _ => .pure (congrArg (Prod.mk _) same)) fun _ => ?_
    refine (ConnectionId.match_releaseOutcome even forms t.connection).andThen fun o => .pure ?_
    have released := congrArg (fun t : Transaction σ => { t with released := true }) same
    exact congrArg (Prod.mk o) released
  · have ambient : k.ambient = k'.ambient := (congrArg Connection.ambient same :)
    rw [ambient]
    split
    · exact congrArg (fun k : Connection σ => { k with ambient := none }) same
    · exact same

theorem match_completeNatively (completion : Completion) :
    Engine.Match b heeds (Prod.map (fun x => x) b.transaction) (t.completeNatively mode completion)
      (t'.completeNatively mode' completion) := by
  have states := congrArg (fun t : Transaction σ => { t with state := completion.state }) same
  have ended : Engine.Match b heeds _ (clear mode { t with state := completion.state })
      (clear mode' { t' with state := completion.state }) := match_clear even forms states
  obtain ⟨logger, rfl, loggers⟩ := Blur.eq_of_transaction same
  have called : Attempt.Match b heeds (fun x => x)
      (Attempt.call (completion.note t.native mode) mode (completion.native t.native))
      (Attempt.call (completion.note t.native mode') mode' (completion.native t.native)) :=
    Attempt.match_call (by cases completion <;> simp only [Completion.note, Blur.call, forms.same])
      (forms.perform fun overlooked => by
        cases completion with
        | commit => exact (even overlooked).commit t.native
        | rollback => exact (even overlooked).rollback t.native)
  refine called.seen.andThen fun o => ?_
  rcases o with failure | _
  · cases failure with
    | error e =>
      exact (Engine.match_trace _ _ _ rfl).andThen fun _ => .pure (congrArg (Prod.mk _) same)
    | cancelled reason => exact .pure (congrArg (Prod.mk _) same)
    | panicked message => exact .pure (congrArg (Prod.mk _) same)
  · exact (Engine.match_trace _ _ _ rfl).andThen fun _ => ended

theorem match_complete (completion : Completion) :
    Engine.Match b heeds (Prod.map (fun x => x) b.transaction) (t.complete mode completion)
      (t'.complete mode' completion) := by
  have completed := match_completeNatively even forms same completion
  have looked : ∀ (m : Mode) (u : Transaction σ), u.complete m completion =
      if u.state ≠ .active then pure (.error (.error u.completedError), u)
      else (Attempt.checkpoint m : Attempt σ Unit).observe >>= fun looked => looked.casesOn
        (fun failure => pure (.error failure, u)) fun _ => u.completeNatively m completion :=
    fun m u => by
      unfold complete
      split
      · rfl
      · funext ⟨⟨state, cancelled⟩, _, _, _, _, _, _, _⟩
        cases m <;> cases cancelled <;> rfl
  obtain ⟨logger, rfl, loggers⟩ := Blur.eq_of_transaction same
  rw [looked, looked]
  refine .ite (fun _ => .pure (congrArg (Prod.mk _) same)) fun _ => ?_
  refine (Attempt.match_checkpoint forms).seen.andThen fun looked => ?_
  cases looked with
  | error failure => exact .pure (congrArg (Prod.mk _) same)
  | ok _ => exact completed

theorem match_abort : Engine.Match b heeds (fun x => x) (t.abort mode) (t'.abort mode') := by
  obtain ⟨logger, rfl, loggers⟩ := Blur.eq_of_transaction same
  refine .ite (fun _ => (Engine.match_trace _ _ _ rfl).andThen fun _ => ?_) fun _ => .pure rfl
  exact (Attempt.match_call (by simp only [Blur.call, forms.same])
    (forms.perform fun overlooked => (even overlooked).rollback t.native)).seen

theorem match_dispose :
    Engine.Match b heeds (Prod.map (fun x => x) b.transaction) (t.dispose mode)
      (t'.dispose mode') := by
  have aborted := match_abort even forms same
  have states := congrArg (fun t : Transaction σ => { t with state := .disposed }) same
  have ended : Engine.Match b heeds _ (clear mode { t with state := .disposed })
      (clear mode' { t' with state := .disposed }) := match_clear even forms states
  obtain ⟨logger, rfl, loggers⟩ := Blur.eq_of_transaction same
  refine .ite (fun _ => .pure (congrArg (Prod.mk _) same)) fun _ => ?_
  refine aborted.andThen fun rolledBack => ended.bind fun x x' alike => .pure ?_
  obtain ⟨cleared, last⟩ := Prod.mk.inj alike
  exact Prod.ext (congrArg rolledBack.andThen cleared) last

omit forms in
theorem match_drop : Engine.Match b heeds (fun x => x) t.drop t'.drop := by
  have disposed : Engine.Match b heeds _ (t.dispose .blocking) (t'.dispose .blocking) :=
    match_dispose even Blur.forms_blocking same
  obtain ⟨logger, rfl, loggers⟩ := Blur.eq_of_transaction same
  refine .ite (fun _ => .pure rfl) fun _ => disposed.bind fun x x' alike => ?_
  obtain ⟨o, t₁⟩ := x
  obtain ⟨o', t₁'⟩ := x'
  obtain ⟨rfl, -⟩ := Prod.mk.inj alike
  rcases o with failure | _
  · exact Engine.match_trace _ _ _ rfl
  · exact .pure rfl

end Ending

end Transaction

end SqlExecution
