import SqlExecution.Proofs.Laws.Statements

/-! What an execution holds before it is released: the calls it made so far, none of which releases
anything, and its open if it got one. -/

namespace SqlExecution

variable {σ α : Type}

namespace NativeCall

def command? : NativeCall → Option NativeCommand
  | execute _ c _ => some c
  | clearParameters c => some c
  | dispose c _ => some c
  | _ => none

def releases : NativeCall → Bool
  | clearParameters _ => true
  | dispose _ _ => true
  | closeConnection _ _ => true
  | _ => false

/-- A call made while a command is held, and on no other command. -/
def Holds (c : NativeCommand) (call : NativeCall) : Prop :=
  call.releases = false ∧ ∀ d, call.command? = some d → d.Same c

theorem holds_of_same {c d : NativeCommand} (same : d.Same c) (call : NativeCall)
    (h : call.Holds d) : call.Holds c := ⟨h.1, fun e on => (h.2 e on).trans same⟩

theorem holds_createCommand (c : NativeCommand) (id : ConnectionId) : (createCommand id).Holds c :=
  ⟨rfl, by simp [command?]⟩

theorem holds_openConnection (c : NativeCommand) (id : ConnectionId) (mode : Mode) :
    (openConnection id mode).Holds c := ⟨rfl, by simp [command?]⟩

theorem holds_execute (method : Method) (c : NativeCommand) (mode : Mode) :
    (execute method c mode).Holds c := ⟨rfl, by simp [command?, NativeCommand.Same]⟩

end NativeCall

theorem Session.Within.holds_created {id : ConnectionId} {s t : Session σ}
    (h : s.Within (· = .createCommand id) t) (c : NativeCommand) :
    s.Within (NativeCall.Holds c) t :=
  h.mono fun call is => by
    rw [is]
    exact NativeCall.holds_createCommand c id

theorem Session.Within.holds_executed {method : Method} {c d : NativeCommand} {mode : Mode}
    {s t : Session σ} (h : s.Within (· = .execute method d mode) t) (same : d.Same c) :
    s.Within (NativeCall.Holds c) t :=
  h.mono fun call is => by
    rw [is]
    exact NativeCall.holds_of_same same _ (NativeCall.holds_execute method d mode)

/-- From one moment to the other only calls were made that hold the command, and an open was taken
if one is held. -/
structure NativeCommand.Held (c : NativeCommand) (id : ConnectionId) (held : Bool)
    (s t : Session σ) : Prop where
  connections : ∃ opened, t.connections = if held then s.taken id opened else s.connections
  calls : ∃ made, t.calls = s.calls ++ made ∧ ∀ call ∈ made, call.Holds c

namespace NativeCommand.Held

variable {c : NativeCommand} {id : ConnectionId} {held : Bool} {s t u : Session σ}

theorem of_within (h : s.Within (NativeCall.Holds c) t) : c.Held id false s t := by
  obtain ⟨made, issues, kind⟩ := h
  exact ⟨⟨false, issues.connections⟩, made, issues.calls, kind⟩

theorem before (h : c.Held id held s t) (quiet : t.Within (NativeCall.Holds c) u) :
    c.Held id held s u := by
  obtain ⟨⟨opened, connections⟩, made, calls, kind⟩ := h
  obtain ⟨more, issues, kind'⟩ := quiet
  refine ⟨⟨opened, issues.connections.trans connections⟩, made ++ more, ?_, ?_⟩
  · rw [issues.calls, calls, List.append_assoc]
  · exact List.forall_mem_append.2 ⟨kind, kind'⟩

theorem after (quiet : s.Within (NativeCall.Holds c) t) (h : c.Held id held t u) :
    c.Held id held s u := by
  obtain ⟨made, issues, kind⟩ := quiet
  obtain ⟨⟨opened, connections⟩, more, calls, kind'⟩ := h
  refine ⟨⟨opened, ?_⟩, made ++ more, ?_, ?_⟩
  · rw [connections]
    cases held with
    | false => exact issues.connections
    | true => simp [Session.taken, Session.setConnection, issues.connections]
  · rw [calls, issues.calls, List.append_assoc]
  · exact List.forall_mem_append.2 ⟨kind, kind'⟩

theorem openCount (h : c.Held id held s t) (i : ConnectionId) :
    t.openCount i = s.openCount i + if held ∧ i = id then 1 else 0 := by
  obtain ⟨opened, connections⟩ := h.connections
  have count : t.openCount i = (t.connections i).openCount := rfl
  rw [count, connections]
  cases held with
  | false => simp [Session.openCount]
  | true => simp [Session.openCount_taken]

end NativeCommand.Held

namespace Statement

open Session

variable {P : NativeCall → Prop} {shape : Shape σ α} {s : Statement} {mode : Mode} {r : Request σ}
  {start t : Session σ}

/-- Where a command was created, it is released with the open if one is held; where none was,
nothing but the attempt to create one happened. -/
def Settled (mode : Mode) (id : ConnectionId) (created : Outcome (NativeCommand × Result Unit))
    (held : Bool) (s t : Session σ) : Prop :=
  match created with
  | .error _ => s.Within (· = .createCommand id) t
  | .ok (c, _) => ∃ (d : NativeCommand) (u : Session σ),
    d.Same c ∧ c.Held id held s u ∧ d.Released mode id held u t

theorem Settled.after {id : ConnectionId} {created : Outcome (NativeCommand × Result Unit)}
    {held : Bool} {u : Session σ} (quiet : ∀ P, start.Within P t)
    (h : Settled mode id created held t u) : Settled mode id created held start u := by
  unfold Settled at *
  split
  · exact (quiet _).trans h
  · obtain ⟨d, v, same, holds, released⟩ := h
    exact ⟨d, v, same, holds.after (quiet _), released⟩

variable [Driver σ]

theorem only_yielded (r : Request σ) (info : ExecutionInfo) :
    Attempt.Only (· = .createCommand info.connection) (yielded r info) :=
  obeys_yielded (allows_within rfl) (hears_within _) (hears_within _) fun l _ => eachHook_within l

theorem only_run (faithful : shape.Faithful) (mode : Mode) (logger : Option (Logger σ))
    (info : ExecutionInfo) (c : NativeCommand) :
    Attempt.Only (· = .execute shape.method c mode) (run shape mode logger info c) :=
  obeys_run faithful (fun _ => hears_within _) (fun _ => hears_within _)
    (fun l _ => eachHook_within l)
    (allows_within rfl)

theorem openFor_held {id : ConnectionId} {o : Outcome Bool}
    (ends : (openFor mode id).observe start = (o, t)) (c : NativeCommand) :
    c.Held id o.isOk start t := by
  unfold openFor at ends
  have checked : start.Within (NativeCall.Holds c) ((Attempt.checkpoint mode).observe start).2 :=
    Attempt.obeys_checkpoint mode start
  rcases check : (Attempt.checkpoint mode).observe start with ⟨failure | _, u⟩
  · rw [check] at checked
    rw [Attempt.observe_bind_error check] at ends
    cases ends
    exact .of_within checked
  · rw [check] at checked
    rw [Attempt.observe_bind_ok check] at ends
    have calls := ConnectionId.acquire_calls mode id u
    have kind : ∀ call ∈ id.openCalls mode u, call.Holds c := by
      unfold ConnectionId.openCalls
      split
      · simp
      · simpa using NativeCall.holds_openConnection c id mode
    refine NativeCommand.Held.after checked ?_
    cases o with
    | ok opened =>
      have taken := ConnectionId.acquire_ok (congrArg Prod.fst ends)
      rw [ends] at calls taken
      exact ⟨⟨opened, taken⟩, _, calls, kind⟩
    | error failure =>
      have kept := ConnectionId.acquire_error (congrArg Prod.fst ends)
      rw [ends] at calls kept
      exact ⟨⟨false, kept⟩, _, calls, kind⟩

theorem Preparation.settled {info : ExecutionInfo} {failure : Failure}
    (h : Preparation s mode r info start (.error failure) t) :
    Settled mode info.connection ((yielded r info).observe start).1 false start t := by
  have asked := only_yielded r info start
  cases h with
  | uncreated stops =>
    rw [stops] at asked
    simpa [Settled, stops] using asked
  | @unequipped c c' hooked e u yields fails =>
    rw [yields] at asked
    have same : c'.Same c := by
      simpa [fails] using s.same_equip r.values (u.connections r.connection) c hooked
    have held : c.Held info.connection false start u := .of_within (asked.holds_created c)
    simp only [Settled, yields]
    exact ⟨c', u, same, held, abandon_released _ _ _ _ _ _ _⟩

theorem Preparation.held {info : ExecutionInfo} {c : NativeCommand}
    (h : Preparation s mode r info start (.ok c) t) :
    ∃ d hooked, ((yielded r info).observe start).1 = .ok (d, hooked) ∧ c.Same d ∧
      start.Within (NativeCall.Holds d) t := by
  have asked := only_yielded r info start
  cases h with
  | @equipped d _ hooked _ yields equips =>
    rw [yields] at asked ⊢
    have same : c.Same d := by
      simpa [equips] using s.same_equip r.values (t.connections r.connection) d hooked
    exact ⟨d, hooked, rfl, same, asked.holds_created d⟩

section Opening

variable {method : Method} {setting : Setting σ} {u v : Session σ}

theorem creation_of_entered (enters : (s.enter method mode r).observe start = (.ok setting, t)) :
    (s.creation method mode r).observe start = (yielded r setting.info).observe t :=
  Attempt.observe_bind_ok enters _

theorem opening_of_prepared {c : NativeCommand} {o : Outcome Bool}
    (enters : (s.enter method mode r).observe start = (.ok setting, t))
    (prepares : Preparation s mode r setting.info t (.ok c) u)
    (ends : (openFor mode r.connection).observe u = (o, v)) :
    (s.opening method mode r).observe start = (o.map fun opened => (setting, c, opened), v) := by
  unfold opening
  rw [Attempt.observe_bind_ok enters, Attempt.observe_bind_ok prepares.equipped_apply]
  cases o with
  | ok opened => exact Attempt.observe_bind_ok ends _
  | error failure => exact Attempt.observe_bind_error ends _

theorem opening_of_unprepared {failure : Failure}
    (enters : (s.enter method mode r).observe start = (.ok setting, t))
    (stops : Preparation s mode r setting.info t (.error failure) u) :
    ((s.opening method mode r).observe start).1 = .error failure := by
  obtain ⟨w, ends⟩ := stops.unequipped_apply
  unfold opening
  rw [Attempt.observe_bind_ok enters, Attempt.observe_bind_error ends]

theorem held_of_prepared {c : NativeCommand} {o : Outcome Bool}
    (enters : (s.enter method mode r).observe start = (.ok setting, t))
    (prepares : Preparation s mode r setting.info t (.ok c) u)
    (ends : (openFor mode r.connection).observe u = (o, v)) :
    ∃ d hooked, ((s.creation method mode r).observe start).1 = .ok (d, hooked) ∧ c.Same d ∧
      ((s.opening method mode r).observe start).1.isOk = o.isOk ∧
      d.Held r.connection o.isOk start v := by
  obtain ⟨d, hooked, yields, same, prepared⟩ := prepares.held
  have entered : start.Within (NativeCall.Holds d) t := by
    simpa [enters] using
      s.obeys_enter method mode r (R := Session.Within (NativeCall.Holds d)) start
  refine ⟨d, hooked, ?_, same, ?_, ?_⟩
  · rw [creation_of_entered enters, yields]
  · rw [opening_of_prepared enters prepares ends]
    cases o <;> rfl
  · exact (openFor_held ends d).after (entered.trans prepared)

end Opening

theorem execute_settled (faithful : shape.Faithful) {failure : Failure}
    (fails : (s.execute shape mode r).observe start = (.error failure, t)) :
    Settled mode r.connection ((s.creation shape.method mode r).observe start).1
      ((s.opening shape.method mode r).observe start).1.isOk start t := by
  -- How far the execution came decides what it owes: nothing, its command, or its open as well.
  have course := s.execute_course shape mode r start
  rw [fails] at course
  cases course with
  | unentered stops =>
    have entered := s.obeys_enter shape.method mode r
      (R := Session.Within (· = .createCommand r.connection)) start
    rw [stops] at entered
    have uncreated : ((s.creation shape.method mode r).observe start).1 = .error failure := by
      rw [creation, Attempt.observe_bind_error stops]
    simpa [Settled, uncreated] using entered
  | @unprepared setting _ u _ enters stops =>
    have entered : ∀ P, start.Within P u := fun P => by
      simpa [enters] using s.obeys_enter shape.method mode r (R := Session.Within P) start
    have settled := stops.settled
    rw [enter_connection enters, ← creation_of_entered enters] at settled
    rw [opening_of_unprepared enters stops]
    exact settled.after entered
  | @unopened setting c _ u v w enters prepares stops =>
    obtain ⟨d, hooked, creates, same, outcome, holds⟩ := held_of_prepared enters prepares stops
    rw [creates, outcome, ← enter_connection enters]
    rw [← enter_connection enters] at holds
    exact ⟨c, w, same, holds, abandon_released _ _ _ _ _ _ w⟩
  | @unperformed setting c opened _ u v w x enters prepares opens stops =>
    obtain ⟨d, hooked, creates, same, outcome, holds⟩ := held_of_prepared enters prepares opens
    have ran : w.Within (NativeCall.Holds d) x := by
      have only := only_run faithful mode setting.logger setting.info c w
      rw [stops] at only
      exact only.holds_executed same
    rw [creates, outcome, ← enter_connection enters]
    rw [← enter_connection enters] at holds
    exact ⟨c, x, same, holds.before ran, abandon_released _ _ _ _ _ _ x⟩

theorem execute_held (faithful : shape.Faithful) {execution : Execution α}
    (ends : (s.execute shape mode r).observe start = (.ok execution, t)) :
    ∃ c hooked, ((s.creation shape.method mode r).observe start).1 = .ok (c, hooked) ∧
      ((s.opening shape.method mode r).observe start).1.isOk = true ∧
      execution.command.Same c ∧ execution.info.connection = r.connection ∧
      c.Held r.connection true start t := by
  have course := s.execute_course shape mode r start
  rw [ends] at course
  cases course with
  | @performed setting c opened _ u v w _ enters prepares opens performs =>
    obtain ⟨d, hooked, creates, same, outcome, holds⟩ := held_of_prepared enters prepares opens
    have ran : w.Within (NativeCall.Holds d) t := by
      have only := only_run faithful mode setting.logger setting.info c w
      rw [performs] at only
      exact only.holds_executed same
    exact ⟨d, hooked, creates, outcome, same, enter_connection enters, holds.before ran⟩

end Statement

end SqlExecution
