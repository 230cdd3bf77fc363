import SqlExecution.Engine.Connection
import SqlExecution.Proofs.Calls

/-! Taking and giving back an open of a connection: what becomes of the count, and which calls reach
the driver. -/

namespace SqlExecution

variable {σ : Type}

/-- A connection that nobody holds and that was not opened here. -/
structure Connection.Idle (c : Connection σ) : Prop where
  openCount : c.openCount = 0
  openedHere : c.openedHere = false

namespace Session

def taken (s : Session σ) (id : ConnectionId) (opened : Bool) : ConnectionId → Connection σ :=
  (s.setConnection id ((s.connections id).acquired opened)).connections

def given (s : Session σ) (id : ConnectionId) : ConnectionId → Connection σ :=
  (s.setConnection id (s.connections id).released.1).connections

theorem openCount_taken (s : Session σ) (id : ConnectionId) (opened : Bool) (i : ConnectionId) :
    (s.taken id opened i).openCount = s.openCount i + if i = id then 1 else 0 := by
  by_cases same : i = id
  · simp [taken, openCount, same]
  · simp [taken, openCount, same, setConnection_of_ne]

theorem openCount_given (s : Session σ) (id i : ConnectionId) :
    (s.given id i).openCount = s.openCount i - if i = id then 1 else 0 := by
  by_cases same : i = id
  · simp [given, openCount, same]
  · simp [given, openCount, same, setConnection_of_ne]

end Session

namespace ConnectionId

variable [Driver σ]

/-- An open taken now opens the native connection: that is closed, and the driver opens it. -/
def OpensNatively (mode : Mode) (id : ConnectionId) (s : Session σ) : Prop :=
  Driver.isOpen id s.scene.state = false ∧
    ((Driver.openConnection id).perform mode s.scene).1 = .ok ()

def openCalls (mode : Mode) (id : ConnectionId) (s : Session σ) : List NativeCall :=
  if Driver.isOpen id s.scene.state then [] else [.openConnection id mode]

def closeCalls (mode : Mode) (id : ConnectionId) (s : Session σ) : List NativeCall :=
  if (s.connections id).released.2 then [.closeConnection id mode] else []

omit [Driver σ] in
theorem closeCalls_of_connections (mode : Mode) (id : ConnectionId) {s t : Session σ}
    (same : t.connections = s.connections) : id.closeCalls mode t = id.closeCalls mode s := by
  rw [closeCalls, closeCalls, same]

theorem openNative_of_open {mode : Mode} {id : ConnectionId} {s : Session σ}
    (isOpen : Driver.isOpen id s.scene.state = true) :
    (id.openNative mode).observe s = (.ok false, s) := by
  unfold openNative
  rw [Attempt.observe_get_bind, if_pos isOpen]
  rfl

theorem openNative_of_closed (mode : Mode) {id : ConnectionId} {s : Session σ}
    (closed : Driver.isOpen id s.scene.state = false) :
    ∃ t, (id.openNative mode).observe s =
        (((Driver.openConnection id).perform mode s.scene).1.map fun _ => true, t) ∧
      s.Issues [.openConnection id mode] t ∧
      t.scene = ((Driver.openConnection id).perform mode s.scene).2 := by
  unfold openNative
  obtain ⟨u, traced, silent, scene⟩ := Engine.trace_apply .debug Trace.connectionTarget
    "Opening connection" [Trace.connectionField id, ("is_async", .bool mode.isAsync)] s
  rw [Attempt.observe_get_bind, if_neg (by simp [closed]), Attempt.trace, Attempt.observe_lift_bind,
    traced, Attempt.observe_outcome_bind]
  -- The driver is asked in the scene that the trace record left, which is the scene of `s`.
  have answer : ((id.callNative .openConnection Driver.openConnection mode).observe u).1 =
      ((Driver.openConnection id).perform mode s.scene).1 := by rw [← scene]; rfl
  have called : u.Issues [.openConnection id mode]
      ((id.callNative .openConnection Driver.openConnection mode).observe u).2 :=
    Engine.issues_call _ _ u
  have opened : ((id.callNative .openConnection Driver.openConnection mode).observe u).2.scene =
      ((Driver.openConnection id).perform mode s.scene).2 := by rw [← scene]; rfl
  rw [answer]
  generalize ((id.callNative .openConnection Driver.openConnection mode).observe u).2 = v at *
  cases ((Driver.openConnection id).perform mode s.scene).1 with
  | ok _ =>
    obtain ⟨t, traced', silent', scene'⟩ := Engine.trace_apply .debug Trace.connectionTarget
      "Opened connection" [Trace.connectionField id] v
    refine ⟨t, ?_, by simpa using (silent.trans called).trans silent', scene'.trans opened⟩
    rw [Attempt.trace, Attempt.observe_lift_bind, traced']
    rfl
  | error failure =>
    have tried := silent.trans called
    cases failure with
    | error e =>
      obtain ⟨t, traced', silent', scene'⟩ := Engine.trace_apply .error Trace.connectionTarget
        "Failed to open connection" [Trace.connectionField id, Trace.errorField e] v
      refine ⟨t, ?_, by simpa using tried.trans silent', scene'.trans opened⟩
      dsimp only
      rw [Attempt.trace, Attempt.observe_lift_bind, traced']
      rfl
    | cancelled reason => exact ⟨v, rfl, by simpa using tried, opened⟩
    | panicked message => exact ⟨v, rfl, by simpa using tried, opened⟩

theorem openNative_issues (mode : Mode) (id : ConnectionId) (s : Session σ) :
    s.Issues (id.openCalls mode s) ((id.openNative mode).observe s).2 := by
  unfold openCalls
  cases state : Driver.isOpen id s.scene.state with
  | true =>
    rw [openNative_of_open state]
    exact .refl s
  | false =>
    obtain ⟨t, ends, issues, -⟩ := openNative_of_closed mode state
    rw [ends]
    exact issues

theorem openNative_eq_true_iff (mode : Mode) (id : ConnectionId) (s : Session σ) :
    ((id.openNative mode).observe s).1 = .ok true ↔ id.OpensNatively mode s := by
  unfold OpensNatively
  cases state : Driver.isOpen id s.scene.state with
  | true => simp [openNative_of_open state]
  | false =>
    obtain ⟨t, ends, -, -⟩ := openNative_of_closed mode state
    rw [ends]
    cases ((Driver.openConnection id).perform mode s.scene).1 <;> simp [Except.map]

theorem acquire_apply (mode : Mode) (id : ConnectionId) (s : Session σ) :
    ∃ t, s.Issues (id.openCalls mode s) t ∧
      (id.acquire mode).observe s =
        match ((id.openNative mode).observe s).1 with
        | .ok opened => (.ok opened, t.setConnection id ((t.connections id).acquired opened))
        | .error failure => (.error failure, t) := by
  refine ⟨((id.openNative mode).observe s).2, openNative_issues mode id s, ?_⟩
  unfold acquire
  rw [Attempt.observe_bind_apply]
  rcases (id.openNative mode).observe s with ⟨_ | opened, t⟩ <;> rfl

theorem acquire_fst (mode : Mode) (id : ConnectionId) (s : Session σ) :
    ((id.acquire mode).observe s).1 = ((id.openNative mode).observe s).1 := by
  obtain ⟨t, _, ends⟩ := acquire_apply mode id s
  rw [ends]
  cases ((id.openNative mode).observe s).1 <;> rfl

theorem acquire_calls (mode : Mode) (id : ConnectionId) (s : Session σ) :
    ((id.acquire mode).observe s).2.calls = s.calls ++ id.openCalls mode s := by
  obtain ⟨t, issues, ends⟩ := acquire_apply mode id s
  rw [ends, ← issues.calls]
  cases ((id.openNative mode).observe s).1 <;> rfl

theorem acquire_ok {mode : Mode} {id : ConnectionId} {s : Session σ} {opened : Bool}
    (ends : ((id.acquire mode).observe s).1 = .ok opened) :
    ((id.acquire mode).observe s).2.connections = s.taken id opened := by
  rw [acquire_fst] at ends
  obtain ⟨t, issues, run⟩ := acquire_apply mode id s
  rw [run, ends]
  simp [Session.taken, Session.setConnection, issues.connections]

theorem acquire_error {mode : Mode} {id : ConnectionId} {s : Session σ} {failure : Failure}
    (ends : ((id.acquire mode).observe s).1 = .error failure) :
    ((id.acquire mode).observe s).2.connections = s.connections := by
  rw [acquire_fst] at ends
  obtain ⟨t, issues, run⟩ := acquire_apply mode id s
  rw [run, ends]
  exact issues.connections

theorem acquire_eq_true_iff (mode : Mode) (id : ConnectionId) (s : Session σ) :
    ((id.acquire mode).observe s).1 = .ok true ↔ id.OpensNatively mode s := by
  rw [acquire_fst, openNative_eq_true_iff]

theorem release_apply (mode : Mode) (id : ConnectionId) (s : Session σ) :
    ((id.release mode).observe s).2.connections = s.given id ∧
      ((id.release mode).observe s).2.calls = s.calls ++ id.closeCalls mode s := by
  -- The count is written before the driver is called, so no answer of the driver can undo it.
  have change : (id.release mode).observe s = (
      if !(s.connections id).released.2 then return false else do
        Attempt.trace .debug Trace.connectionTarget "Closing connection"
          [Trace.connectionField id, ("is_async", .bool mode.isAsync)]
        id.callNative .closeConnection Driver.closeConnection mode
        return true : Attempt σ Bool).observe
          (s.setConnection id (s.connections id).released.1) := by
    unfold release
    rw [Attempt.observe_get_bind]
    rfl
  rw [change]
  unfold closeCalls
  cases (s.connections id).released.2 with
  | false => exact ⟨rfl, (List.append_nil _).symm⟩
  | true =>
    obtain ⟨u, traced, silent, -⟩ := Engine.trace_apply .debug Trace.connectionTarget
      "Closing connection" [Trace.connectionField id, ("is_async", .bool mode.isAsync)]
      (s.setConnection id (s.connections id).released.1)
    rw [if_neg (by simp), Attempt.trace, Attempt.observe_lift_bind, traced,
      Attempt.observe_bind_pure_snd]
    have called : u.Issues [.closeConnection id mode]
        ((id.callNative .closeConnection Driver.closeConnection mode).observe u).2 :=
      Engine.issues_call _ _ u
    exact ⟨(silent.trans called).connections, (silent.trans called).calls⟩

theorem release_of_kept {mode : Mode} {id : ConnectionId} {s : Session σ}
    (kept : (s.connections id).released.2 = false) :
    (id.release mode).observe s =
      (.ok false, s.setConnection id (s.connections id).released.1) := by
  unfold release
  rw [Attempt.observe_get_bind]
  simp only [kept]
  rfl

theorem releaseOutcome_connections (mode : Mode) (id : ConnectionId) (s : Session σ) :
    (id.releaseOutcome mode s).2.connections = s.given id := (release_apply mode id s).1

theorem releaseOutcome_calls (mode : Mode) (id : ConnectionId) (s : Session σ) :
    (id.releaseOutcome mode s).2.calls = s.calls ++ id.closeCalls mode s :=
  (release_apply mode id s).2

/-! Under a law, taking an open and giving it back are up to what it says of the count and of the
calls to the driver. -/

section Lawful

variable {R : Session σ → Session σ → Prop} [Session.ReportingLaw R] {mode : Mode} {id : ConnectionId}

theorem obeys_openNative (opens : Session.Allows R (.openConnection id mode)) :
    Attempt.Obeys R (id.openNative mode) := by
  have called : Attempt.Obeys R (id.callNative .openConnection Driver.openConnection mode) :=
    Attempt.obeys_call opens fun _ => rfl
  unfold openNative
  refine Attempt.obeys_get.bind fun s => ?_
  split
  · exact .pure _
  · refine (Attempt.obeys_remark _ _ _ _).bind fun _ => ?_
    refine (Attempt.obeys_outcome called).bind fun o => ?_
    cases o with
    | ok _ => exact (Attempt.obeys_remark _ _ _ _).bind fun _ => .pure _
    | error failure =>
      cases failure with
      | error e => exact (Attempt.obeys_remark _ _ _ _).bind fun _ => Attempt.obeys_throw _
      | cancelled reason => exact Attempt.obeys_throw _
      | panicked message => exact Attempt.obeys_throw _

theorem obeys_acquire (opens : Session.Allows R (.openConnection id mode))
    (counts : ∀ s opened, R s (s.setConnection id ((s.connections id).acquired opened))) :
    Attempt.Obeys R (id.acquire mode) := by
  refine (obeys_openNative opens).bind fun opened => ?_
  have counted : Attempt.Obeys R
      (Attempt.lift (Engine.modifyConnection id (·.acquired opened)) : Attempt σ Unit) :=
    fun s => counts s opened
  exact counted.bind fun _ => .pure _

theorem obeys_releaseOutcome (closes : Session.Allows R (.closeConnection id mode))
    (counts : ∀ s, R s (s.setConnection id (s.connections id).released.1)) :
    Engine.Obeys R (id.releaseOutcome mode) := by
  intro s
  have called : Attempt.Obeys R (id.callNative .closeConnection Driver.closeConnection mode) :=
    Attempt.obeys_call closes fun _ => rfl
  have rest : Attempt.Obeys R (do
      if !(s.connections id).released.2 then return false
      Attempt.trace .debug Trace.connectionTarget "Closing connection"
        [Trace.connectionField id, ("is_async", .bool mode.isAsync)]
      id.callNative .closeConnection Driver.closeConnection mode
      return true : Attempt σ Bool) := by
    split
    · exact .pure _
    · exact (Attempt.obeys_remark _ _ _ _).bind fun _ => called.bind fun _ => .pure _
  exact Session.ReportingLaw.trans (counts s) (rest _)

end Lawful

end ConnectionId

end SqlExecution
