import SqlExecution.Proofs.Completions
import SqlExecution.Proofs.GovernedCalls
import SqlExecution.Scripted.Hooks

/-! What becomes of a transaction that the driver has begun when beginning fails after all. Only the
started event can still fail then. It is not rolled back: the open is given back, and that is all. -/

namespace SqlExecution

variable {σ : Type}

open Session

/-- The calls that begin transactions. -/
def Facet.begins : Facet where
  sees
    | .native (.begin _ _ _) => true
    | _ => false

theorem Facet.begins_hooksOnly : begins.HooksOnly fun _ => false := fun _ _ => rfl

theorem Facet.begins_focused : begins.Focused :=
  .of_hooksOnly (fun call unhooked => by cases call <;> first | rfl | cases unhooked)
    begins_hooksOnly rfl

/-- From one moment to the other the driver is asked to begin a transaction, and it begins this. -/
def Session.Begins [Driver σ] (c : ConnectionId) (mode : Mode) (isolation : IsolationLevel)
    (native : NativeTransaction) (s u : Session σ) : Prop :=
  ∃ ms, s.Shows .begins ms u ∧ ∃ m ∈ ms, m.entry = .native (.begin c mode isolation) ∧
    ((Driver.begin c isolation).perform mode m.scene).1 = .ok native

theorem Session.Begins.of_hides [Driver σ] {c : ConnectionId} {mode : Mode}
    {isolation : IsolationLevel} {native : NativeTransaction} {s t u v : Session σ}
    (begins : t.Begins c mode isolation native u) (before : s.Hides .begins t)
    (after : u.Hides .begins v) : s.Begins c mode isolation native v := by
  obtain ⟨ms, shows, asked⟩ := begins
  exact ⟨ms, (before.trans shows).before after, asked⟩

/-- The transaction is rolled back, and no connection is closed before that. -/
def Session.RollsBack (native : NativeTransaction) (s u : Session σ) : Prop :=
  ∃ before mode after, u.calls = s.calls ++ (before ++ .rollback native mode :: after) ∧
    ∀ call ∈ before, ∀ c m, call ≠ .closeConnection c m

/-- A native transaction for a wrapper that is yet to be made. -/
structure Obtained (σ : Type) where
  native : NativeTransaction
  /-- The driver began it; otherwise a hook supplied it. -/
  begun : Bool
  /-- Who hears that it started, and of which event. -/
  raised : Option (Logger σ × TransactionEvent)

namespace Transaction

variable [Driver σ] {mode : Mode} {c : ConnectionId} {isolation : IsolationLevel}
  {s t u v w : Session σ}

/-- If beginning fails although the driver has begun a transaction, that is rolled back before the
open is given back. -/
def LeavesNoneBegun (mode : Mode) (c : ConnectionId) (isolation : IsolationLevel)
    (s : Session σ) : Prop :=
  ∀ failure u native, (start mode c isolation).observe s = (.error failure, u) →
    s.Begins c mode isolation native u → s.RollsBack native u

def obtaining (mode : Mode) (c : ConnectionId) (isolation : IsolationLevel) (id : TransactionId) :
    Attempt σ (Obtained σ) := do
  let begun : Attempt σ NativeTransaction :=
    Attempt.call (.begin c mode isolation) mode (Driver.begin c isolation)
  let logger := ((← get).connections c).logger
  match ← Attempt.lift (Engine.raising Logger.raisesTransaction logger) with
  | none => return ⟨← begun, true, none⟩
  | some logger =>
    let event : TransactionEvent := ⟨c, id, isolation, mode.isAsync⟩
    match ← logger.transactionStarting mode event with
    | .hasResult native => return ⟨native, false, some (logger, event)⟩
    | .noResult => return ⟨← begun, true, some (logger, event)⟩

/-- Tell the interceptors that a transaction started. -/
def announcing (mode : Mode) (o : Obtained σ) : Attempt σ NativeTransaction :=
  match o.raised with
  | none => pure o.native
  | some (logger, event) => logger.transactionStarted mode event o.native

theorem beginNative_eq (mode : Mode) (c : ConnectionId) (isolation : IsolationLevel)
    (id : TransactionId) :
    beginNative (σ := σ) mode c isolation id = obtaining mode c isolation id >>= announcing mode := by
  unfold beginNative obtaining
  simp only [bind_assoc]
  refine bind_congr fun s => bind_congr fun logger => ?_
  cases logger with
  | none => simp [announcing]
  | some l =>
    simp only [bind_assoc]
    refine bind_congr fun offered => ?_
    cases offered with
    | noResult => simp [announcing]
    | hasResult native => simp [announcing]

/-- All that comes before the started event. -/
def preparing (mode : Mode) (c : ConnectionId) (isolation : IsolationLevel) :
    Attempt σ (Obtained σ) := do
  obtaining mode c isolation (← opening mode c)

/-- How a native transaction is obtained: by the driver, if it is asked at all. -/
inductive Obtaining (mode : Mode) (c : ConnectionId) (isolation : IsolationLevel) (s : Session σ) :
    Outcome (Obtained σ) → Session σ → Prop where
  | unasked {outcome : Outcome (Obtained σ)} {u : Session σ} (issues : s.Issues [] u)
      (hides : s.Hides .begins u) (supplied : ∀ o, outcome = .ok o → o.begun = false) :
      Obtaining mode c isolation s outcome u
  | asked (raised : Option (Logger σ × TransactionEvent)) {v u : Session σ}
      (issues : s.Issues [] v) (hides : s.Hides .begins v)
      (adds : v.Adds [⟨v.scene, .native (.begin c mode isolation)⟩] u) :
      Obtaining mode c isolation s
        (((Driver.begin c isolation).perform mode v.scene).1.map fun native =>
          ⟨native, true, raised⟩) u

theorem asking_obtaining (raised : Option (Logger σ × TransactionEvent)) (issues : s.Issues [] v)
    (hides : s.Hides .begins v) :
    ∃ outcome u, (do
        return ⟨← Attempt.call (.begin c mode isolation) mode (Driver.begin c isolation), true, raised⟩
        : Attempt σ (Obtained σ)).observe v = (outcome, u) ∧
      Obtaining mode c isolation s outcome u := by
  have adds := Engine.adds_call (.begin c mode isolation) ((Driver.begin c isolation).perform mode) v
  have asked := Obtaining.asked raised issues hides adds
  have answer : ((Driver.begin c isolation).perform mode v.scene).1 = (Engine.call
    (.begin c mode isolation) ((Driver.begin c isolation).perform mode) v).1 := rfl
  rw [answer] at asked
  rw [Attempt.observe_bind_apply, Attempt.observe_call]
  rcases ends : Engine.call (.begin c mode isolation) ((Driver.begin c isolation).perform mode) v
    with ⟨failure | native, u⟩
  all_goals
    rw [ends] at asked
    exact ⟨_, _, rfl, asked⟩

theorem obtaining_obtaining (mode : Mode) (c : ConnectionId) (isolation : IsolationLevel)
    (id : TransactionId) (s : Session σ) :
    ∃ outcome u, (obtaining mode c isolation id).observe s = (outcome, u) ∧
      Obtaining mode c isolation s outcome u := by
  have raising : Engine.raising Logger.raisesTransaction (s.connections c).logger s =
    ((s.connections c).logger.filter (·.raisesTransaction s.traceLimit), s) := rfl
  unfold obtaining
  rw [Attempt.observe_get_bind, Attempt.observe_lift_bind, raising]
  dsimp only
  cases (s.connections c).logger.filter (·.raisesTransaction s.traceLimit) with
  | none => exact asking_obtaining none (.refl s) (.of_journal_eq rfl)
  | some l =>
    dsimp only
    let event : TransactionEvent := ⟨c, id, isolation, mode.isAsync⟩
    have issues : Attempt.Only (fun _ => False) (l.transactionStarting mode event) :=
      Logger.obeys_transactionStarting (hears_within _) (eachHook_within l) mode event
    have hides : Attempt.Obeys (Hides .begins) (l.transactionStarting mode event) :=
      Logger.obeys_transactionStarting (hears_of_hooksOnly Facet.begins_hooksOnly rfl)
        (eachHook_hides l) mode event
    have quiet := (issues s).silent
    have hidden := hides s
    rcases starting : (l.transactionStarting mode event).observe s with ⟨failure | offered, v⟩
    all_goals rw [starting] at quiet hidden
    · rw [Attempt.observe_bind_error starting]
      exact ⟨_, _, rfl, .unasked quiet hidden fun _ ok => nomatch ok⟩
    · rw [Attempt.observe_bind_ok starting]
      cases offered with
      | noResult => exact asking_obtaining (some (l, event)) quiet hidden
      | hasResult native =>
        refine ⟨_, _, rfl, .unasked quiet hidden fun o same => ?_⟩
        cases same
        rfl

theorem Obtaining.begun {o : Obtained σ} (obtaining : Obtaining mode c isolation s (.ok o) u)
    (begun : o.begun = true) :
    s.Issues [.begin c mode isolation] u ∧ s.Begins c mode isolation o.native u := by
  generalize same : Except.ok o = outcome at obtaining
  cases obtaining with
  | unasked issues hides supplied =>
    have other := supplied o same.symm
    rw [begun] at other
    cases other
  | @asked raised v _ issues hides adds =>
    rcases answer : ((Driver.begin c isolation).perform mode v.scene).1 with failure | native
    all_goals
      rw [answer] at same
      cases same
    exact ⟨issues.trans adds.issues, _, hides.trans (adds.shows .begins), _,
      List.mem_singleton_self _, rfl, answer⟩

theorem Obtaining.unbegun {outcome : Outcome (Obtained σ)} {native : NativeTransaction}
    (obtaining : Obtaining mode c isolation t outcome u)
    (unbegun : ∀ o, outcome = .ok o → o.begun = false) (before : s.Hides .begins t)
    (after : u.Hides .begins v) : ¬ s.Begins c mode isolation native v := by
  rintro ⟨ms, shows, m, member, -, begins⟩
  cases obtaining with
  | unasked issues hides supplied =>
    cases shows.unique ((before.trans hides).before after)
    cases member
  | asked _ issues hides adds =>
    cases shows.unique ((before.trans (hides.trans (adds.shows .begins))).before after)
    cases List.mem_singleton.1 member
    rw [begins] at unbegun
    cases unbegun _ rfl

omit [Driver σ] in
theorem announcing_quiet (mode : Mode) (o : Obtained σ) :
    Attempt.Only (fun _ => False) (announcing mode o) ∧
      Attempt.Obeys (Hides .begins) (announcing mode o) := by
  unfold announcing
  cases o.raised with
  | none => exact ⟨.pure _, .pure _⟩
  | some raised =>
    exact ⟨Logger.obeys_transactionStarted (hears_within _) (eachHook_within raised.1) mode raised.2 _,
      Logger.obeys_transactionStarted (hears_of_hooksOnly Facet.begins_hooksOnly rfl)
        (eachHook_hides raised.1) mode raised.2 _⟩

theorem opening_hides (mode : Mode) (c : ConnectionId) :
    Attempt.Obeys (Hides (σ := σ) .begins) (opening mode c) :=
  (obeys_ensureNone c).bind fun _ => (Attempt.obeys_checkpoint mode).bind fun _ =>
    (Facet.begins_focused.hides_acquire mode c).bind fun _ =>
      (Attempt.obeys_lift Engine.obeys_mint).bind fun _ => .pure _

theorem opening_ok {id : TransactionId} (opens : (opening mode c).observe s = (.ok id, t)) :
    ∃ opened, t.connections = s.taken c opened ∧ t.calls = s.calls ++ c.openCalls mode s := by
  unfold opening at opens
  rw [Attempt.observe_bind_apply, ensureNone_apply] at opens
  cases found : (s.connections c).ambient with
  | some a =>
    rw [found] at opens
    cases opens
  | none =>
    rw [found] at opens
    dsimp only at opens
    rw [Attempt.observe_bind_apply, Attempt.checkpoint, Attempt.observe_get_bind] at opens
    cases entered : mode.checkpoint s.scene.cancelled with
    | error failure =>
      rw [entered] at opens
      cases opens
    | ok _ =>
      rw [entered] at opens
      obtain ⟨opened, u, acquired, rest⟩ := Attempt.ok_of_bind_ok opens
      cases rest
      have connections := ConnectionId.acquire_ok (congrArg Prod.fst acquired)
      have calls := c.acquire_calls mode s
      rw [acquired] at connections calls
      exact ⟨opened, connections, calls⟩

/-- How beginning goes wrong: no native transaction is obtained, or the started event fails. -/
inductive Fails (mode : Mode) (c : ConnectionId) (isolation : IsolationLevel) (s : Session σ)
    (failure : Failure) : Session σ → Prop where
  | unopened {u : Session σ} (stops : (opening mode c).observe s = (.error failure, u)) :
      Fails mode c isolation s failure u
  | unobtained {id : TransactionId} {t u : Session σ}
      (opens : (opening mode c).observe s = (.ok id, t))
      (stops : (obtaining mode c isolation id).observe t = (.error failure, u)) :
      Fails mode c isolation s failure (releaseAfterFailure mode c u).2
  | unannounced {id : TransactionId} {o : Obtained σ} {t u v : Session σ}
      (opens : (opening mode c).observe s = (.ok id, t))
      (obtains : (obtaining mode c isolation id).observe t = (.ok o, u))
      (stops : (announcing mode o).observe u = (.error failure, v)) :
      Fails mode c isolation s failure (releaseAfterFailure mode c v).2

theorem start_of_opened {id : TransactionId} (opens : (opening mode c).observe s = (.ok id, t)) :
    (start mode c isolation).observe s =
      match (obtaining mode c isolation id >>= announcing mode).observe t with
      | (.ok native, u) => (.ok (wrap c native id true u).1, (wrap c native id true u).2)
      | (.error failure, u) => (.error failure, (releaseAfterFailure mode c u).2) := by
  rw [start_eq, Attempt.observe_bind_ok opens]
  unfold beginning
  rw [Attempt.observe_outcome_bind, beginNative_eq]
  rcases (obtaining mode c isolation id >>= announcing mode).observe t with ⟨failure | native, u⟩
  · rfl
  · rfl

theorem start_fails {failure : Failure}
    (stops : (start mode c isolation).observe s = (.error failure, w)) :
    Fails mode c isolation s failure w := by
  rcases opens : (opening mode c).observe s with ⟨failure' | id, t⟩
  · rw [start_eq, Attempt.observe_bind_error opens] at stops
    cases stops
    exact .unopened opens
  rw [start_of_opened opens] at stops
  rcases obtains : (obtaining mode c isolation id).observe t with ⟨failure' | o, u⟩
  · rw [Attempt.observe_bind_error obtains] at stops
    cases stops
    exact .unobtained opens obtains
  rw [Attempt.observe_bind_ok obtains] at stops
  rcases announces : (announcing mode o).observe u with ⟨failure' | native, v⟩
  all_goals
    rw [announces] at stops
    cases stops
  exact .unannounced opens obtains announces

/-- The driver begins a transaction, and then the started event fails. -/
def LosesBegun (mode : Mode) (c : ConnectionId) (isolation : IsolationLevel) (s : Session σ) :
    Prop :=
  ∃ o u failure v, (preparing mode c isolation).observe s = (.ok o, u) ∧ o.begun = true ∧
    (announcing mode o).observe u = (.error failure, v)

theorem releaseAfterFailure_calls (mode : Mode) (c : ConnectionId) (s : Session σ) :
    (releaseAfterFailure mode c s).2.calls = s.calls ++ c.closeCalls mode s := by
  have warned := Engine.obeys_warn (R := Within fun _ => False) Trace.connectionTarget
    "Failed to close connection after a failed begin" [Trace.connectionField c]
    (c.releaseOutcome mode s).1 (c.releaseOutcome mode s).2
  rw [← c.releaseOutcome_calls mode s]
  exact warned.silent.calls.trans (List.append_nil _)

theorem releaseAfterFailure_hides (mode : Mode) (c : ConnectionId) :
    Engine.Obeys (Hides (σ := σ) .begins) (releaseAfterFailure mode c) :=
  obeys_releaseAfterFailure (Facet.begins_focused.hides_releaseOutcome mode c)

theorem fails_begins {failure : Failure} {native : NativeTransaction}
    (fails : Fails mode c isolation s failure w) (begins : s.Begins c mode isolation native w) :
    LosesBegun mode c isolation s := by
  have opening := opening_hides mode c s
  cases fails with
  | unopened stops =>
    rw [stops] at opening
    obtain ⟨ms, shows, m, member, -⟩ := begins
    cases shows.unique opening
    cases member
  | @unobtained id t u opens stops =>
    rw [opens] at opening
    obtain ⟨outcome, _, ends, obtained⟩ := obtaining_obtaining mode c isolation id t
    rw [stops] at ends
    cases ends
    exact absurd begins
      (obtained.unbegun (fun _ ok => nomatch ok) opening (releaseAfterFailure_hides mode c u))
  | @unannounced id o t u v opens obtains stops =>
    rw [opens] at opening
    obtain ⟨outcome, _, ends, obtained⟩ := obtaining_obtaining mode c isolation id t
    rw [obtains] at ends
    cases ends
    have announced := (announcing_quiet mode o).2 u
    rw [stops] at announced
    cases begun : o.begun with
    | true =>
      refine ⟨o, u, failure, v, ?_, begun, stops⟩
      unfold preparing
      rw [Attempt.observe_bind_ok opens, obtains]
    | false =>
      have unbegun : ∀ x, Except.ok o = (.ok x : Outcome (Obtained σ)) → x.begun = false := by
        rintro _ ⟨⟩
        exact begun
      exact absurd begins (obtained.unbegun unbegun opening
        (announced.trans (releaseAfterFailure_hides mode c v)))

/-- Whatever the driver began, all that is called after it is what gives the open back. -/
theorem start_of_loses {o : Obtained σ} {failure : Failure}
    (prepares : (preparing mode c isolation).observe s = (.ok o, u)) (begun : o.begun = true)
    (stops : (announcing mode o).observe u = (.error failure, v)) :
    ∃ w, (start mode c isolation).observe s = (.error failure, w) ∧
      s.Begins c mode isolation o.native w ∧ w.openCount = s.openCount ∧
      w.calls = s.calls ++ (c.openCalls mode s ++ .begin c mode isolation :: c.closeCalls mode v) := by
  obtain ⟨id, t, opens, obtains⟩ := Attempt.ok_of_bind_ok prepares
  have opening := opening_hides mode c s
  rw [opens] at opening
  obtain ⟨opened, -, taken⟩ := opening_ok opens
  obtain ⟨outcome, _, ends, obtained⟩ := obtaining_obtaining mode c isolation id t
  rw [obtains] at ends
  cases ends
  obtain ⟨asked, begins⟩ := obtained.begun begun
  obtain ⟨only, hides⟩ := announcing_quiet mode o
  have announced := (only u).silent
  have unseen := hides u
  rw [stops] at announced unseen
  have fails : (start mode c isolation).observe s =
      (.error failure, (releaseAfterFailure mode c v).2) := by
    rw [start_of_opened opens, Attempt.observe_bind_ok obtains, stops]
  refine ⟨_, fails, ?_, ?_, ?_⟩
  · exact begins.of_hides opening (unseen.trans (releaseAfterFailure_hides mode c v))
  · refine Follows.openCount_eq fun i => ?_
    have follows := start_follows i mode c isolation s
    rwa [fails] at follows
  · rw [releaseAfterFailure_calls, announced.calls, asked.calls, taken]
    simp

theorem not_leavesNoneBegun_of_loses (loses : LosesBegun mode c isolation s) :
    ¬ LeavesNoneBegun mode c isolation s := by
  intro leaves
  obtain ⟨o, u, failure, v, prepares, begun, stops⟩ := loses
  obtain ⟨w, fails, begins, -, calls⟩ := start_of_loses prepares begun stops
  obtain ⟨before, mode', after, calls', -⟩ := leaves failure w o.native fails begins
  have same := List.append_cancel_left (calls.symm.trans calls')
  have member : NativeCall.rollback o.native mode' ∈
      c.openCalls mode s ++ .begin c mode isolation :: c.closeCalls mode v := by simp [same]
  unfold ConnectionId.openCalls ConnectionId.closeCalls at member
  split at member <;> split at member <;> simp at member

/-- A failing beginning leaves no transaction begun, unless it is the started event that fails after
the driver began one. Then all that is called after that is what gives the open back. -/
theorem leavesNoneBegun_iff (mode : Mode) (c : ConnectionId) (isolation : IsolationLevel)
    (s : Session σ) :
    (LeavesNoneBegun mode c isolation s ↔ ¬ LosesBegun mode c isolation s) ∧
    ∀ o u failure v, (preparing mode c isolation).observe s = (.ok o, u) → o.begun = true →
      (announcing mode o).observe u = (.error failure, v) →
      ∃ w, (start mode c isolation).observe s = (.error failure, w) ∧
        s.Begins c mode isolation o.native w ∧ w.openCount = s.openCount ∧
        w.calls = s.calls ++
          (c.openCalls mode s ++ .begin c mode isolation :: c.closeCalls mode v) := by
  refine ⟨⟨fun leaves loses => not_leavesNoneBegun_of_loses loses leaves, ?_⟩,
    fun o u failure v => start_of_loses⟩
  intro keeps failure u native fails begins
  exact absurd (fails_begins (start_fails fails) begins) keeps

/-- Connections that someone else holds open, with an interceptor that fails when a transaction
started. -/
def heldUnderFailing : Session Script :=
  let hooks : ScriptedTransactionHooks := { started := { error := some (.custom "boom") } }
  let logger : Logger Script := ⟨{}, [], [hooks.interceptor "watch" .both]⟩
  { scene := ⟨{ connections := fun _ => { isOpen := true } }, none⟩
    connections := fun _ => { logger, openCount := 1, openedHere := true } }

theorem heldUnderFailing_loses (mode : Mode) :
    LosesBegun mode ⟨0⟩ .serializable heldUnderFailing := by
  have begun : ((preparing mode ⟨0⟩ .serializable).observe heldUnderFailing).1.toOption.map
      (·.begun) = some true := by cases mode <;> decide +kernel
  have fails : ((preparing mode ⟨0⟩ .serializable >>= announcing mode).observe
      heldUnderFailing).1.toOption = none := by cases mode <;> decide +kernel
  rcases prepares : (preparing mode ⟨0⟩ .serializable).observe heldUnderFailing
    with ⟨failure | o, u⟩
  all_goals rw [prepares] at begun
  · cases begun
  rw [Attempt.observe_bind_ok prepares] at fails
  rcases stops : (announcing mode o).observe u with ⟨failure | native, v⟩
  · exact ⟨o, u, failure, v, prepares, Option.some.inj begun, stops⟩
  · rw [stops] at fails
    cases fails

/-- The driver began a transaction, and is not called again. -/
theorem leavesNoneBegun_iff_of_held :
    ∃ native failure w, (start .async ⟨0⟩ .serializable).observe heldUnderFailing =
        (.error failure, w) ∧
      heldUnderFailing.Begins ⟨0⟩ .async .serializable native w ∧
      w.openCount = heldUnderFailing.openCount ∧ w.calls = [.begin ⟨0⟩ .async .serializable] := by
  obtain ⟨o, u, failure, v, prepares, begun, stops⟩ := heldUnderFailing_loses .async
  have kept : (((preparing .async ⟨0⟩ .serializable >>= announcing .async).observe
      heldUnderFailing).2.connections ⟨0⟩).released.2 = false := by decide +kernel
  rw [Attempt.observe_bind_ok prepares, stops] at kept
  have closes : ConnectionId.closeCalls .async ⟨0⟩ v = [] := if_neg (by simp [kept])
  obtain ⟨w, fails, begins, count, calls⟩ :=
    (leavesNoneBegun_iff .async ⟨0⟩ .serializable heldUnderFailing).2 o u failure v prepares begun
      stops
  rw [closes] at calls
  exact ⟨o.native, failure, w, fails, begins, count, calls⟩

/-- A hook that fails after the driver began a transaction leaves it begun. -/
theorem not_leavesNoneBegun_of_failing_hook :
    ¬ LeavesNoneBegun .blocking ⟨0⟩ .serializable heldUnderFailing :=
  not_leavesNoneBegun_of_loses (heldUnderFailing_loses .blocking)

end Transaction

end SqlExecution
