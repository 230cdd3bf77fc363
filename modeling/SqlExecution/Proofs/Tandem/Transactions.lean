import SqlExecution.Engine.Transaction
import SqlExecution.Proofs.Tandem.Drivers

/-! Transactions beside themselves. They raise no event of an execution, and nothing that is held on
to of the executions is touched by them. -/

namespace SqlExecution

variable {σ α : Type}

open Trace

namespace Tandem

variable {t : Tandem σ} (watches : t.Watches) (scenes : t.scenes = Eq)
include watches scenes

theorem tries_callAlone (note : NativeCall) (mode : Mode) (d : Dual σ α) :
    t.Tries Eq (Attempt.call note mode d) (Attempt.call note mode d) :=
  tries_callSame watches (by
    rw [scenes]
    exact Act.alike_self (fun _ => rfl) _)

theorem tries_transactionHooks {mode : Mode} {stops : Bool}
    {deliver : TransactionInterceptor σ → α → Engine σ Unit}
    {hook : TransactionInterceptor σ → α → Dual σ α}
    (delivers : ∀ i a, t.Runs Eq (deliver i a) (deliver i a)) (is : List (TransactionInterceptor σ))
    (a : α) :
    t.Tries Eq (Attempt.foldHooks mode stops deliver hook is a)
      (Attempt.foldHooks mode stops deliver hook is a) := by
  refine tries_foldHooks watches (fun i a a' same => ?_) (fun i _ a a' same => ?_) rfl
  · cases same
    exact delivers i a
  · cases same
    rw [scenes]
    exact Act.alike_self (sameEnd_refl fun _ => rfl) _

omit scenes in
theorem runs_transactionDelivery (i : TransactionInterceptor σ) (hook : Hook) (mode : Mode)
    (event : TransactionEvent) (input : HookInput) :
    t.Runs Eq (Logger.transactionDelivery i hook mode event input)
      (Logger.transactionDelivery i hook mode event input) :=
  runs_record watches rfl rfl (.inl fun _ _ is => Subject.noConfusion is)

theorem tries_transactionStarting (l : Logger σ) (mode : Mode) (event : TransactionEvent) :
    t.Tries Eq (l.transactionStarting mode event) (l.transactionStarting mode event) := by
  refine (tries_plainTrace watches rfl).andThen fun _ => ?_
  exact tries_transactionHooks watches scenes
    (fun i r => runs_transactionDelivery watches i _ mode event _) _ _

theorem tries_transactionStarted (l : Logger σ) (mode : Mode) (event : TransactionEvent)
    (native : NativeTransaction) :
    t.Tries Eq (l.transactionStarted mode event native)
      (l.transactionStarted mode event native) := by
  refine (tries_plainTrace watches rfl).andThen fun _ => ?_
  exact tries_transactionHooks watches scenes
    (fun i r => runs_transactionDelivery watches i _ mode event _) _ _

omit watches scenes in
theorem tries_ensureNone (id : ConnectionId) :
    t.Tries Eq (Transaction.ensureNone id) (Transaction.ensureNone id) := by
  refine .get fun s s' meets => ?_
  rw [meets.connections]
  cases (s.connections id).ambient with
  | some a => exact .throw _
  | none => exact .pure rfl

omit scenes in
theorem runs_wrap (id : ConnectionId) (native : NativeTransaction) (transaction : TransactionId)
    (owned : Bool) :
    t.Runs Eq (Transaction.wrap id native transaction owned)
      (Transaction.wrap id native transaction owned) := by
  refine (runs_modifyConnection watches id _).andThen fun _ => ?_
  have reported : t.Runs Eq (Engine.connection id : Engine σ _) (Engine.connection id) :=
    .get fun s s' meets => by
      rw [meets.connections]
      exact .pure rfl
  refine reported.andThen fun c => ?_
  cases c.reportsWrapping with
  | false => exact .pure rfl
  | true =>
    have noted : t.Runs Eq
        (Engine.record (.wrapped ⟨transaction, native, c.logger.isSome, owned⟩))
        (Engine.record (.wrapped ⟨transaction, native, c.logger.isSome, owned⟩)) :=
      runs_record watches rfl rfl (.inl trivial)
    exact noted.andThen fun _ => .pure rfl

variable [Driver σ] (answers : t.Answers)

omit scenes in
include answers in
theorem runs_releaseAfterFailure (mode : Mode) (id : ConnectionId) :
    t.Runs Eq (Transaction.releaseAfterFailure mode id) (Transaction.releaseAfterFailure mode id) :=
  (runs_releaseOutcome watches answers mode id).andThen fun o => runs_warn watches _ _ rfl o

theorem tries_beginNative (mode : Mode) (id : ConnectionId) (isolation : IsolationLevel)
    (transaction : TransactionId) :
    t.Tries Eq (Transaction.beginNative mode id isolation transaction)
      (Transaction.beginNative mode id isolation transaction) := by
  refine .get fun s s' meets => ?_
  rw [meets.connections]
  have begun := tries_callAlone watches scenes (.begin id mode isolation) mode
    (Driver.begin id isolation)
  refine tries_raising _ fun raised _ => ?_
  cases raised with
  | none => exact begun
  | some l =>
    refine (tries_transactionStarting watches scenes l mode _).andThen fun offered => ?_
    cases offered with
    | hasResult native => exact tries_transactionStarted watches scenes l mode _ native
    | noResult => exact begun.andThen fun native =>
        tries_transactionStarted watches scenes l mode _ native

include answers

theorem tries_start (mode : Mode) (id : ConnectionId) (isolation : IsolationLevel) :
    t.Tries Eq (Transaction.start mode id isolation) (Transaction.start mode id isolation) := by
  refine (tries_ensureNone id).andThen fun _ => ?_
  refine (tries_checkpoint watches mode).andThen fun _ => ?_
  refine (tries_acquire watches answers mode id).andThen fun _ => ?_
  refine (Tries.lift (runs_mint watches)).andThen fun serial => ?_
  refine (tries_beginNative watches scenes mode id isolation ⟨serial⟩).outcomeThen fun o => ?_
  cases o with
  | ok native => exact .lift (runs_wrap watches id native _ true)
  | error failure =>
    exact (Tries.lift (runs_releaseAfterFailure watches answers mode id)).andThen fun _ =>
      .throw failure

omit scenes in
theorem tries_adopt (mode : Mode) (id : ConnectionId) (native : NativeTransaction) :
    t.Tries Eq (Transaction.adopt mode id native) (Transaction.adopt mode id native) := by
  refine (tries_ensureNone id).andThen fun _ => ?_
  refine (tries_acquire watches answers mode id).andThen fun _ => ?_
  refine (Tries.lift (runs_mint watches)).andThen fun serial => ?_
  refine (tries_plainTrace watches rfl).andThen fun _ => ?_
  exact .lift (runs_wrap watches id native _ false)

omit scenes in
theorem runs_clear (mode : Mode) (x : Transaction σ) : t.Runs Eq (x.clear mode) (x.clear mode) := by
  refine (runs_modifyConnection watches x.connection _).andThen fun _ => ?_
  refine .ite (fun _ => .pure rfl) fun _ => ?_
  exact (runs_releaseOutcome watches answers mode x.connection).andThen fun _ => .pure rfl

theorem runs_complete (mode : Mode) (completion : Completion) (x : Transaction σ) :
    t.Runs Eq (x.complete mode completion) (x.complete mode completion) := by
  unfold Transaction.complete
  refine .ite (fun _ => .pure rfl) fun _ => .get fun s s' meets => ?_
  rw [watches.cancelled meets.scenes]
  have called := (tries_callAlone watches scenes (completion.note x.native mode) mode
    (completion.native x.native)).seen
  cases mode.checkpoint s.scene.cancelled with
  | error failure => exact .pure rfl
  | ok _ =>
    refine called.andThen fun o => ?_
    cases o with
    | ok _ => exact (runs_plainTrace watches rfl).andThen fun _ => runs_clear watches answers mode _
    | error failure =>
      cases failure with
      | error e => exact (runs_plainTrace watches rfl).andThen fun _ => .pure rfl
      | cancelled reason => exact .pure rfl
      | panicked message => exact .pure rfl

omit answers in
theorem runs_abort (mode : Mode) (x : Transaction σ) : t.Runs Eq (x.abort mode) (x.abort mode) := by
  refine .ite (fun _ => ?_) fun _ => .pure rfl
  refine (runs_plainTrace watches rfl).andThen fun _ => ?_
  exact (tries_callAlone watches scenes _ mode _).seen

theorem runs_disposeTransaction (mode : Mode) (x : Transaction σ) :
    t.Runs Eq (x.dispose mode) (x.dispose mode) := by
  unfold Transaction.dispose
  refine .ite (fun _ => .pure rfl) fun _ => ?_
  refine (runs_abort watches scenes mode x).andThen fun rolledBack => ?_
  exact (runs_clear watches answers mode _).andThen fun _ => .pure rfl

theorem runs_dropTransaction (x : Transaction σ) : t.Runs Eq x.drop x.drop := by
  unfold Transaction.drop
  refine .ite (fun _ => .pure rfl) fun _ => ?_
  refine (runs_disposeTransaction watches scenes answers .blocking x).andThen fun ends => ?_
  obtain ⟨o, x⟩ := ends
  cases o with
  | ok _ => exact .pure rfl
  | error failure => exact runs_plainTrace watches rfl

end Tandem

end SqlExecution
