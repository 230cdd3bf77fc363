import SqlExecution.Proofs.BegunTransactions
import SqlExecution.Proofs.TransactionLife
import SqlExecution.Proofs.UnreadJournals

/-! Operations on transactions that fail. Whoever failed to begin a transaction, or to complete one,
finds everything as it was, and what is done with a transaction after a completion that failed goes
as if that had not been tried. -/

namespace SqlExecution

variable {σ : Type}

open Session

namespace Workspace

/-- What a program relies on is as before: all that it keeps, the ambient transactions, and the
numbers of opens. -/
structure Unshaken (w w' : Workspace σ) : Prop where
  transactions : w'.transactions = w.transactions
  commands : w'.commands = w.commands
  ambient : w'.session.ambient = w.session.ambient
  openCount : w'.session.openCount = w.session.openCount

/-- Nothing of the engine changed but what its journal tells. -/
structure Untouched (w w' : Workspace σ) : Prop where
  transactions (name : String) :
    Named.find? name w'.transactions = Named.find? name w.transactions
  commands : w'.commands = w.commands
  session : w'.session =
    { w.session with scene := w'.session.scene, journal := w'.session.journal }

/-- The same workspace in another scene. -/
def facing (scene : Scene σ) (w : Workspace σ) : Workspace σ :=
  { w with session := { w.session with scene } }

/-- Workspaces that are the same but for the past of their journals. -/
structure Abreast (past past' : List (Moment σ)) (w w' : Workspace σ) : Prop where
  session : w.session.Abreast past past' w'.session
  transactions (name : String) :
    Named.find? name w.transactions = Named.find? name w'.transactions
  commands : w.commands = w'.commands

theorem Untouched.abreast {w w' : Workspace σ} (untouched : w.Untouched w') :
    Abreast w'.session.journal w.session.journal w' (w.facing w'.session.scene) where
  session := by
    have same : (w.facing w'.session.scene).session =
        { w'.session with journal := w.session.journal } := by
      rw [untouched.session]
      rfl
    rw [same]
    exact abreast_replaced w'.session w.session.journal
  transactions := untouched.transactions
  commands := untouched.commands

end Workspace

/-- Committing, rolling back, disposing or dropping a transaction that is kept. -/
inductive Operation.OnTransaction : Operation σ → Prop where
  | complete (name : String) (completion : Completion) (mode : Mode) :
      OnTransaction (.complete name completion mode)
  | dispose (name : String) (mode : Mode) : OnTransaction (.disposeTransaction name mode)
  | drop (name : String) : OnTransaction (.dropTransaction name)

namespace Transaction

variable [Driver σ] {mode : Mode} {c : ConnectionId} {isolation : IsolationLevel}
  {s u : Session σ}

/-- All that can make beginning fail, without what is then cleaned up. -/
def attempting (mode : Mode) (c : ConnectionId) (isolation : IsolationLevel) :
    Attempt σ NativeTransaction := do
  beginNative mode c isolation (← opening mode c)

/-- All that can make taking part in a transaction fail. -/
def joining (mode : Mode) (c : ConnectionId) : Attempt σ Bool := do
  ensureNone c
  c.acquire mode

theorem start_attempting (mode : Mode) (c : ConnectionId) (isolation : IsolationLevel)
    (s : Session σ) :
    ((start mode c isolation).observe s).1.map (·.native) =
      ((attempting mode c isolation).observe s).1 := by
  -- Cleaning up after a failure makes no other failure of it.
  unfold attempting
  rcases opens : (opening mode c).observe s with ⟨failure | id, t⟩
  · rw [start_eq, Attempt.observe_bind_error opens, Attempt.observe_bind_error opens]
    rfl
  · rw [start_of_opened opens, Attempt.observe_bind_ok opens, beginNative_eq]
    rcases (obtaining mode c isolation id >>= announcing mode).observe t with ⟨failure | native, u⟩
    · rfl
    · exact congrArg Except.ok (wrap_native c native id true u)

theorem adopt_joining {native : NativeTransaction} {failure : Failure}
    (fails : (adopt mode c native).observe s = (.error failure, u)) :
    ((joining mode c).observe s).1 = .error failure := by
  have joined : adopt (σ := σ) mode c native = (do
      let _ ← joining mode c
      let id : TransactionId := ⟨← Attempt.lift Engine.mint⟩
      Attempt.trace .debug Trace.transactionTarget "Using external transaction"
        [Trace.connectionField c, Trace.transactionField id]
      Attempt.lift (wrap c native id false)) := by
    unfold adopt joining
    simp only [bind_assoc]
  rw [joined] at fails
  rcases joins : (joining mode c).observe s with ⟨failure' | opened, t⟩
  · rw [Attempt.observe_bind_error joins] at fails
    cases fails
    rfl
  · rw [Attempt.observe_bind_ok joins, Attempt.observe_lift_bind] at fails
    cases fails

end Transaction

namespace Program

variable [Driver σ] {w w' : Workspace σ} {name : String} {failure : Failure}

theorem keepBegun_failed {x : Outcome (Transaction σ) × Session σ}
    (fails : keepBegun name x.1 { w with session := x.2 } = (.begun (.error failure), w'))
    (keeps : ∀ failure u, x = (.error failure, u) → KeepsAmbients w.session u)
    (follows : ∀ id, Session.Follows id w.session x.2 0
      (Outcome.held (fun t => (t.holds id).toNat) x.1)) :
    w.Unshaken w' ∧ ∃ u, x = (.error failure, u) := by
  rcases x with ⟨failure' | t, u⟩
  · cases fails
    exact ⟨⟨rfl, rfl, (keeps _ _ rfl).ambient, Follows.openCount_eq follows⟩, u, rfl⟩
  · rw [keepBegun_ok] at fails
    cases fails

theorem begin_failed {c : ConnectionId} {isolation : IsolationLevel} {mode : Mode}
    (fails : (Operation.begin name c isolation mode).perform w = (.begun (.error failure), w')) :
    w.Unshaken w' ∧
      ((Transaction.attempting mode c isolation).observe w.session).1 = .error failure := by
  have attempts := Transaction.start_attempting mode c isolation w.session
  have turn := Transaction.start_turn mode c isolation w.session
  obtain ⟨unshaken, u, starts⟩ :=
    keepBegun_failed (x := (Transaction.start mode c isolation).observe w.session) fails
      (fun _ _ starts => by rwa [starts] at turn)
      fun id => Transaction.start_follows id mode c isolation w.session
  rw [starts] at attempts
  exact ⟨unshaken, attempts.symm⟩

theorem adopt_failed {c : ConnectionId} {native : NativeTransaction} {mode : Mode}
    (fails : (Operation.adopt name c native mode).perform w = (.begun (.error failure), w')) :
    w.Unshaken w' ∧ ((Transaction.joining mode c).observe w.session).1 = .error failure := by
  have turn := Transaction.adopt_turn mode c native w.session
  obtain ⟨unshaken, u, adopts⟩ :=
    keepBegun_failed (x := (Transaction.adopt mode c native).observe w.session) fails
      (fun _ _ adopts => by rwa [adopts] at turn)
      fun id => Transaction.adopt_follows id mode c native w.session
  exact ⟨unshaken, Transaction.adopt_joining adopts⟩

theorem perform_complete {t : Transaction σ}
    (found : Named.find? name w.transactions = some t) (mode : Mode) (completion : Completion) :
    (Operation.complete name completion mode).perform w =
      (.done (t.complete mode completion w.session).1.1, {
        w with
          session := (t.complete mode completion w.session).2
          transactions :=
            Named.insert name (t.complete mode completion w.session).1.2 w.transactions }) := by
  change withTransaction name _ w = _
  rw [withTransaction_found found]
  rfl

theorem complete_failed {t : Transaction σ} (found : Named.find? name w.transactions = some t)
    {mode : Mode} {completion : Completion} {answer : Answer σ}
    (completes : (Operation.complete name completion mode).perform w = (answer, w'))
    (incomplete : ¬ w.session.Completes completion t.native w'.session) :
    (∃ failure, answer = .done (.error failure)) ∧ w.Untouched w' := by
  have completing := Transaction.complete_completing mode completion t w.session
  rw [perform_complete found] at completes
  generalize (t.complete mode completion w.session).1.1 = outcome,
    (t.complete mode completion w.session).1.2 = t',
    (t.complete mode completion w.session).2 = u at completing completes
  cases completes
  have kept : ∀ other, Named.find? other (Named.insert name t w.transactions) =
      Named.find? other w.transactions := by
    intro other
    by_cases same : other = name
    · rw [same, Named.find?_insert_same, found]
    · exact Named.find?_insert_of_ne same t w.transactions
  cases completing with
  | refused ended => exact ⟨⟨_, rfl⟩, kept, rfl, rfl⟩
  | stopped active stops => exact ⟨⟨_, rfl⟩, kept, rfl, rfl⟩
  | failed active enters fails adds => exact ⟨⟨_, rfl⟩, kept, rfl, adds.rest⟩
  | @succeeded v active enters succeeds adds =>
    refine absurd ⟨_, (shows_completion completion adds).before ?_, _, List.mem_singleton_self _,
      mode, rfl, succeeds⟩ incomplete
    exact Transaction.clear_hides mode _ v

section Abreast

variable {past past' : List (Moment σ)} {op : Operation σ}

omit [Driver σ] in
theorem abreast_keepTransaction {s s' : Session σ} (abreast : w.Abreast past past' w')
    (session : s.Abreast past past' s') (name : String) (t : Transaction σ) :
    Workspace.Abreast past past'
      { w with session := s, transactions := Named.insert name t w.transactions }
      { w' with session := s', transactions := Named.insert name t w'.transactions } := by
  refine ⟨session, fun other => ?_, abreast.commands⟩
  by_cases same : other = name
  · rw [same, Named.find?_insert_same, Named.find?_insert_same]
  · rw [Named.find?_insert_of_ne same, Named.find?_insert_of_ne same]
    exact abreast.transactions other

omit [Driver σ] in
theorem abreast_eraseTransaction {s s' : Session σ} (abreast : w.Abreast past past' w')
    (session : s.Abreast past past' s') (name : String) :
    Workspace.Abreast past past'
      { w with session := s, transactions := Named.erase name w.transactions }
      { w' with session := s', transactions := Named.erase name w'.transactions } := by
  refine ⟨session, fun other => ?_, abreast.commands⟩
  by_cases same : other = name
  · rw [same, Named.find?_erase_same, Named.find?_erase_same]
  · rw [Named.find?_erase_of_ne same, Named.find?_erase_of_ne same]
    exact abreast.transactions other

omit [Driver σ] in
theorem abreast_withTransaction {act : Transaction σ → Program σ (Answer σ)}
    (abreast : w.Abreast past past' w')
    (each : ∀ t, (act t w).1 = (act t w').1 ∧ (act t w).2.Abreast past past' (act t w').2) :
    (withTransaction name act w).1 = (withTransaction name act w').1 ∧
      (withTransaction name act w).2.Abreast past past' (withTransaction name act w').2 := by
  unfold withTransaction
  simp only [bind_apply, get_apply]
  rw [← abreast.transactions name]
  cases Named.find? name w.transactions with
  | none => exact ⟨rfl, abreast⟩
  | some t => exact each t

theorem perform_abreast (on : op.OnTransaction) (abreast : w.Abreast past past' w') :
    (op.perform w).1 = (op.perform w').1 ∧ (op.perform w).2.Abreast past past' (op.perform w').2 := by
  cases on with
  | complete name completion mode =>
    refine abreast_withTransaction abreast fun t => ?_
    obtain ⟨same, session⟩ := t.blind_complete mode completion _ _ _ _ abreast.session
    simp only [bind_apply, engine_apply, ← same]
    exact ⟨rfl, abreast_keepTransaction abreast session name _⟩
  | dispose name mode =>
    refine abreast_withTransaction abreast fun t => ?_
    obtain ⟨same, session⟩ := t.blind_dispose mode _ _ _ _ abreast.session
    simp only [bind_apply, engine_apply, ← same]
    exact ⟨rfl, abreast_keepTransaction abreast session name _⟩
  | drop name =>
    refine abreast_withTransaction abreast fun t => ?_
    obtain ⟨same, session⟩ := t.blind_drop _ _ _ _ abreast.session
    exact ⟨rfl, abreast_eraseTransaction abreast session name⟩

theorem run_abreast {ops : List (Operation σ)} (on : ∀ op ∈ ops, op.OnTransaction)
    (abreast : w.Abreast past past' w') :
    (run ops w).1 = (run ops w').1 ∧ (run ops w).2.Abreast past past' (run ops w').2 := by
  induction ops generalizing w w' with
  | nil => exact ⟨rfl, abreast⟩
  | cons op ops ih =>
    obtain ⟨same, step⟩ := perform_abreast (on op (List.mem_cons_self ..)) abreast
    obtain ⟨rest, ends⟩ := ih (fun other member => on other (List.mem_cons_of_mem _ member)) step
    rw [run_cons, run_cons, same, rest]
    exact ⟨rfl, ends⟩

end Abreast

/-- Beginning and taking part in a transaction that fail, with the failure that they met first, leave
all that a program relies on as it was. A completion that the driver did not carry out changes
nothing of the engine, and what is done with transactions later goes as if it had not been tried. -/
theorem failed_transactions_change_nothing (w : Workspace σ) :
    (∀ name c isolation mode failure w',
      (Operation.begin name c isolation mode).perform w = (.begun (.error failure), w') →
      w.Unshaken w' ∧
        ((Transaction.attempting mode c isolation).observe w.session).1 = .error failure) ∧
    (∀ name c native mode failure w',
      (Operation.adopt name c native mode).perform w = (.begun (.error failure), w') →
      w.Unshaken w' ∧ ((Transaction.joining mode c).observe w.session).1 = .error failure) ∧
    ∀ name t completion mode answer w', Named.find? name w.transactions = some t →
      (Operation.complete name completion mode).perform w = (answer, w') →
      ¬ w.session.Completes completion t.native w'.session →
      (∃ failure, answer = .done (.error failure)) ∧ w.Untouched w' ∧
        ∀ later : List (Operation σ), (∀ op ∈ later, op.OnTransaction) →
          (run later w').1 = (run later (w.facing w'.session.scene)).1 ∧
          (run later w').2.Abreast w'.session.journal w.session.journal
            (run later (w.facing w'.session.scene)).2 := by
  refine ⟨fun _ _ _ _ _ _ => begin_failed, fun _ _ _ _ _ _ => adopt_failed, ?_⟩
  intro name t completion mode answer w' found completes incomplete
  obtain ⟨fails, untouched⟩ := complete_failed found completes incomplete
  exact ⟨fails, untouched, fun later on => run_abreast on untouched.abreast⟩

/-- What a program may make of an answer to beginning or joining a transaction. -/
def failure? : Answer σ → Option Failure
  | .begun (.error failure) => some failure
  | _ => none

omit [Driver σ] in
theorem failed_of_failure? {x : Answer σ × Workspace σ} (fails : failure? x.1 = some failure) :
    x = (.begun (.error failure), x.2) := by
  unfold failure? at fails
  split at fails
  · next failure' begun =>
    cases fails
    exact Prod.ext begun rfl
  · cases fails

omit [Driver σ] in
/-- A transaction cannot be begun, and the open that was taken for it cannot be given back either;
none can be joined on a connection that is in one; and the commit of that one fails, after which it
can be rolled back. -/
theorem failed_transactions_change_nothing_under_faults :
    let refused : Error := .custom "refused"
    let faults (id : ConnectionId) (method : NativeMethod) : List (Option Fault) :=
      match id.serial, method with
      | 0, .commit => [some (.error refused)]
      | 1, .begin => [some (.error refused)]
      | 1, .closeConnection => [some (.error (.custom "stuck"))]
      | _, _ => []
    let script : Script := { connections := fun id => { faults := faults id } }
    let w := (run [.begin "t" ⟨0⟩ .serializable .blocking] (.begun ⟨script, none⟩)).2
    let begin : Operation Script := .begin "u" ⟨1⟩ .serializable .async
    let adopt : Operation Script := .adopt "u" ⟨0⟩ ⟨⟨0⟩, "n1", .serializable⟩ .blocking
    let commit : Operation Script := .complete "t" .commit .async
    let later : List (Operation Script) := [.complete "t" .rollback .blocking, .dropTransaction "t"]
    (∃ w', begin.perform w = (.begun (.error (.error refused)), w') ∧ w.Unshaken w') ∧
    (∃ failure w', adopt.perform w = (.begun (.error failure), w') ∧ w.Unshaken w') ∧
    ∃ failure w', commit.perform w = (.done (.error failure), w') ∧ w.Untouched w' ∧
      (run later w').1 = (run later (w.facing w'.session.scene)).1 := by
  intro refused faults script w begin adopt commit later
  have unbegun : failure? (begin.perform w).1 = some (.error refused) := by
    decide +kernel +zetaReduce
  have unjoined : (failure? (adopt.perform w).1).isSome = true := by decide +kernel +zetaReduce
  have uncommitted : (Named.find? "t" w.transactions).map (fun t => (t.released, t.state,
      ((TransactionUse.complete .commit .async).perform t w.session).1.state)) =
    some (false, .active, .active) := by decide +kernel +zetaReduce
  clear_value w
  obtain ⟨begins, adopts, completes⟩ := failed_transactions_change_nothing w
  have on : ∀ op ∈ later, op.OnTransaction :=
    List.forall_mem_cons.2 ⟨.complete .., List.forall_mem_singleton.2 (.drop "t")⟩
  obtain ⟨t, found, state⟩ := Option.map_eq_some_iff.1 uncommitted
  simp only [Prod.mk.injEq] at state
  obtain ⟨unreleased, active, still⟩ := state
  have whole : t.Whole := iff_of_false (by simp [unreleased]) (not_not_intro active)
  have goes := (TransactionUse.complete .commit .async).perform_goes whole w.session
  have incomplete : ¬ w.session.Completes .commit t.native (commit.perform w).2.session := by
    rw [perform_complete found]
    exact fun completes => goes.inactive_of_completes completes still
  obtain ⟨failure, unjoined⟩ := Option.isSome_iff_exists.1 unjoined
  have begun := failed_of_failure? (x := begin.perform w) unbegun
  have joined := failed_of_failure? (x := adopt.perform w) unjoined
  obtain ⟨⟨failure', fails⟩, untouched, goesOn⟩ :=
    completes "t" t .commit .async (commit.perform w).1 (commit.perform w).2 found rfl incomplete
  exact ⟨⟨_, begun, (begins "u" ⟨1⟩ .serializable .async _ _ begun).1⟩,
    ⟨failure, _, joined, (adopts "u" ⟨0⟩ _ .blocking _ _ joined).1⟩,
    failure', _, Prod.ext fails rfl, untouched, (goesOn later on).1⟩

end Program

end SqlExecution
