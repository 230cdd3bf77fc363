import SqlExecution.Proofs.ExecutionEvents

/-! What becomes of the errors of cleanup steps: closing a cursor or a connection, disposing a
command, rolling back. A warning tells of such an error, or it is still owed: to be returned, to be
warned of later, or to be lost where another failure stands before it. -/

namespace SqlExecution

variable {σ α : Type}

open Session Tandem

def Failure.error? : Failure → Option Error
  | .error e => some e
  | _ => none

/-- The error that an outcome is, which a cancellation or a panic is not. -/
def Outcome.error? : Outcome α → Option Error
  | .ok _ => none
  | .error failure => failure.error?

theorem Failure.told_of_error {e : Error} {failure : Failure} (fields : List (String × TraceValue))
    (is : failure.error? = some e) :
    ("error", .text e.message) ∈ fields ++ [Trace.errorField failure.toError] := by
  cases failure <;> cases is
  exact List.mem_append_right _ (List.mem_singleton_self _)

namespace NativeCall

/-- The steps that release something. -/
def cleansUp : NativeCall → Bool
  | closeConnection _ _ => true
  | rollback _ _ => true
  | dispose _ _ => true
  | closeCursor _ _ => true
  | _ => false

/-- The error that a cleanup step fails with in this scene. -/
def cleanupError? [Driver σ] (x : Scene σ) : NativeCall → Option Error
  | closeConnection id mode => ((Driver.closeConnection id).perform mode x).1.error?
  | rollback t mode => ((Driver.rollback t).perform mode x).1.error?
  | dispose c mode => ((Driver.dispose c).perform mode x).1.error?
  | closeCursor c mode => ((Driver.closeCursor c).perform mode x).1.error?
  | _ => none

theorem cleansUp_of_reads {c : Cursor} {call : NativeCall} (reads : c.Reads call) :
    call.cleansUp = false := by
  cases call <;> first | rfl | cases reads

theorem cleanupError?_of_not_cleansUp [Driver σ] {call : NativeCall} (other : call.cleansUp = false)
    (x : Scene σ) : call.cleanupError? x = none := by
  cases call <;> first | rfl | cases other

end NativeCall

def Facet.cleanups : Facet where
  sees
    | .native call => call.cleansUp
    | _ => false

namespace Moment

/-- The error of a cleanup step, if this was one and it failed with an error. -/
def cleanupError? [Driver σ] (m : Moment σ) : Option Error :=
  match m.entry with
  | .native call => call.cleanupError? m.scene
  | _ => none

/-- A warning was written that tells of the error. -/
def Warns (e : Error) (m : Moment σ) : Prop :=
  ∃ r ∈ m.entry.record?, r.level = .warn ∧ ("error", .text e.message) ∈ r.fields

instance (e : Error) (m : Moment σ) : Decidable (m.Warns e) :=
  inferInstanceAs (Decidable (∃ r ∈ m.entry.record?, _ ∧ _))

theorem cleanupError?_of_unseen [Driver σ] {m : Moment σ}
    (unseen : Facet.cleanups.sees m.entry = false) : m.cleanupError? = none := by
  unfold cleanupError?
  split
  · next call is =>
    rw [is] at unseen
    exact NativeCall.cleanupError?_of_not_cleansUp unseen _
  · rfl

end Moment

namespace Session

/-- Of the errors of cleanup steps since then, these are still owed, and warnings tell of the
others. Which records are kept is as it was. -/
structure Settles [Driver σ] (s : Session σ) (owed : List Error) (t : Session σ) : Prop where
  limit : t.traceLimit = s.traceLimit
  journal : ∃ added, t.journal = s.journal ++ added ∧
    (∀ e ∈ added.filterMap Moment.cleanupError?, e ∈ owed ∨ ∃ m ∈ added, m.Warns e) ∧
    ∀ e ∈ owed, e ∈ added.filterMap Moment.cleanupError?

variable [Driver σ] {s t u : Session σ} {owed more : List Error}

namespace Settles

theorem of_hides (hidden : Hides .cleanups s t) (limit : t.traceLimit = s.traceLimit) :
    s.Settles [] t := by
  obtain ⟨added, journal, unseen⟩ := hidden
  refine ⟨limit, added, journal, fun e member => ?_, nofun⟩
  obtain ⟨m, gained, fails⟩ := List.mem_filterMap.1 member
  have overlooked := Moment.cleanupError?_of_unseen
    (Bool.eq_false_iff.2 (List.filter_eq_nil_iff.1 unseen m gained))
  rw [overlooked] at fails
  cases fails

theorem of_steady (hidden : Hides .cleanups s t) (steady : s.Steady t) : s.Settles [] t :=
  .of_hides hidden steady.traceLimit

theorem of_runs {m : Engine σ α} {V : α → α → Prop} (hidden : Engine.Obeys (Hides .cleanups) m)
    (runs : (alone s.Steady (fun _ => True) (fun _ => True)).Runs V m m) :
    s.Settles [] (m s).2 := .of_steady (hidden s) (runs.alone (.refl s)).2

theorem refl (s : Session σ) : s.Settles [] s := .of_hides (.of_journal_eq rfl) rfl

theorem trans (first : s.Settles owed t) (second : t.Settles more u) :
    s.Settles (owed ++ more) u := by
  obtain ⟨limit, added, journal, told, due⟩ := first
  obtain ⟨limit', added', journal', told', due'⟩ := second
  refine ⟨limit'.trans limit, added ++ added', by rw [journal', journal, List.append_assoc],
    fun e member => ?_, fun e member => ?_⟩
  · rw [List.filterMap_append, List.mem_append] at member
    rcases member with member | member
    · exact (told e member).imp (List.mem_append_left _) fun ⟨m, gained, warns⟩ =>
        ⟨m, List.mem_append_left _ gained, warns⟩
    · exact (told' e member).imp (List.mem_append_right _) fun ⟨m, gained, warns⟩ =>
        ⟨m, List.mem_append_right _ gained, warns⟩
  · rw [List.filterMap_append]
    exact List.mem_append.2 ((List.mem_append.1 member).imp (due e) (due' e))

theorem after (quiet : s.Settles [] t) (h : t.Settles owed u) : s.Settles owed u := quiet.trans h

end Settles

theorem settles_call {note : NativeCall} {a : Act σ (Outcome α)}
    (fails : ∀ x, note.cleanupError? x = (a x).1.error?) (s : Session σ) :
    s.Settles (Engine.call note a s).1.error?.toList (Engine.call note a s).2 := by
  have gained : [(⟨s.scene, .native note⟩ : Moment σ)].filterMap Moment.cleanupError? =
      (Engine.call note a s).1.error?.toList := by
    have here : (⟨s.scene, .native note⟩ : Moment σ).cleanupError? =
        (Engine.call note a s).1.error? := fails s.scene
    rw [← here]
    cases fails : (⟨s.scene, .native note⟩ : Moment σ).cleanupError? <;> simp [fails]
  refine ⟨rfl, [⟨s.scene, .native note⟩], rfl, fun e member => .inl ?_, fun e member => ?_⟩
  · rwa [gained] at member
  · rwa [gained]

theorem settles_trace (level : TraceLevel) (target message : String)
    (fields : List (String × TraceValue)) (s : Session σ) :
    s.Settles [] (Engine.trace level target message fields s).2 := by
  refine .of_hides (Engine.obeys_trace level target message fields s) ?_
  rw [Engine.trace_snd]
  split <;> rfl

theorem settles_warning {target message : String} {fields : List (String × TraceValue)}
    (told : ∀ e ∈ owed, ("error", .text e.message) ∈ fields) (h : s.Settles (owed ++ more) t)
    (kept : TraceLevel.warn.isKept s.traceLimit = true) :
    s.Settles more (Engine.trace .warn target message fields t).2 := by
  obtain ⟨limit, added, journal, tells, due⟩ := h
  rw [Engine.trace_snd, if_pos (by rwa [limit])]
  let warning : Moment σ := ⟨t.scene, .trace ⟨.warn, target, message, fields⟩⟩
  have quiet : (added ++ [warning]).filterMap Moment.cleanupError? =
      added.filterMap Moment.cleanupError? := by
    rw [List.filterMap_append]
    exact List.append_nil _
  refine ⟨limit, added ++ [warning],
    by rw [noted, journal, List.append_assoc], fun e member => ?_, fun e member => ?_⟩
  · rw [quiet] at member
    rcases tells e member with owes | ⟨m, gained, warns⟩
    · rcases List.mem_append.1 owes with owes | owes
      · exact .inr ⟨warning, List.mem_append_right _ (List.mem_singleton_self _), _, rfl, rfl,
          told e owes⟩
      · exact .inl owes
    · exact .inr ⟨m, List.mem_append_left _ gained, warns⟩
  · rw [quiet]
    exact due e (List.mem_append_right _ member)

/-- Of the errors of cleanup steps since then, what is returned or warned of leaves only those that
another failure overshadows. -/
def Pays (s : Session σ) (returned : Option Error) (shadowed : List Error)
    (t : Session σ) : Prop :=
  ∃ owed, s.Settles (owed ++ shadowed) t ∧ ∀ e ∈ owed, returned = some e

section Pays

variable {returned : Option Error} {shadowed : List Error}

theorem Settles.pays (h : s.Settles shadowed t) : s.Pays returned shadowed t := ⟨[], h, nofun⟩

theorem Settles.pays_returned (h : s.Settles (returned.toList ++ shadowed) t) :
    s.Pays returned shadowed t := ⟨_, h, fun _ => Option.mem_toList.1⟩

theorem Settles.pays_all (h : s.Settles returned.toList t) : s.Pays returned [] t :=
  Settles.pays_returned (by rwa [List.append_nil])

theorem Pays.after (quiet : s.Settles [] t) (h : t.Pays returned shadowed u) :
    s.Pays returned shadowed u := by
  obtain ⟨owed, settles, pays⟩ := h
  exact ⟨owed, quiet.trans settles, pays⟩

theorem Pays.trans (h : s.Pays returned shadowed t) (next : t.Settles more u) :
    s.Pays returned (shadowed ++ more) u := by
  obtain ⟨owed, settles, pays⟩ := h
  exact ⟨owed, by simpa only [List.append_assoc] using settles.trans next, pays⟩

theorem Pays.limit (h : s.Pays returned shadowed t) : t.traceLimit = s.traceLimit := by
  obtain ⟨_, settles, _⟩ := h
  exact settles.limit

theorem Pays.settles (h : s.Pays none shadowed t) : s.Settles shadowed t := by
  obtain ⟨owed, settles, pays⟩ := h
  have none : owed = [] := List.eq_nil_iff_forall_not_mem.2 fun e member => nomatch pays e member
  rwa [none] at settles

variable (kept : TraceLevel.warn.isKept s.traceLimit = true)
include kept

theorem Pays.warning {target message : String} {fields : List (String × TraceValue)}
    (told : ∀ e, returned = some e → ("error", .text e.message) ∈ fields)
    (h : s.Pays returned shadowed t) :
    s.Settles shadowed (Engine.trace .warn target message fields t).2 := by
  obtain ⟨owed, settles, pays⟩ := h
  exact settles_warning (fun e member => told e (pays e member)) settles kept

theorem Pays.warn {target message : String} {fields : List (String × TraceValue)}
    {o : Outcome Unit} (h : s.Pays o.error? shadowed t) :
    s.Settles shadowed (Engine.warn target message fields o t).2 := by
  unfold Engine.warn
  split
  · refine h.warning kept fun e is => ?_
    cases is
    exact List.mem_append_right _ (List.mem_singleton_self _)
  · next other =>
    rcases o with (e | _ | _) | _
    · exact (other e rfl).elim
    all_goals exact h.settles

end Pays

end Session

variable [Driver σ]

theorem Attempt.call_settles (note : NativeCall) (mode : Mode) (d : Dual σ α)
    (fails : ∀ x, note.cleanupError? x = (d.perform mode x).1.error?) (s : Session σ) :
    s.Settles ((Attempt.call note mode d).observe s).1.error?.toList
      ((Attempt.call note mode d).observe s).2 := settles_call fails s

theorem NativeCommand.discard_settles (mode : Mode) (c : NativeCommand) (s : Session σ) :
    s.Settles (c.discard mode s).1.error?.toList (c.discard mode s).2 := by
  have cleared : s.Settles [] (s.noted (.native (.clearParameters c))) :=
    .of_hides (hides_noted rfl s) rfl
  exact cleared.after (settles_call (fun _ => rfl) _)

theorem ConnectionId.acquire_settles (mode : Mode) (id : ConnectionId) (s : Session σ) :
    s.Settles [] ((id.acquire mode).observe s).2 := by
  have hidden : Attempt.Obeys (Hides (σ := σ) .cleanups) (id.acquire mode) :=
    obeys_acquire (allows_hides rfl) fun _ _ => .of_journal_eq rfl
  exact .of_runs hidden
    (tries_acquire (steady_watches s) (answers_of_eq rfl rfl) mode id)

theorem ConnectionId.release_of_closing {mode : Mode} {id : ConnectionId} {s : Session σ}
    (closes : (s.connections id).released.2 = true) :
    (id.release mode).observe s =
      (id.callNative .closeConnection Driver.closeConnection mode >>= fun _ => pure true).observe
        (Engine.trace .debug Trace.connectionTarget "Closing connection"
          [Trace.connectionField id, ("is_async", .bool mode.isAsync)]
          (s.setConnection id (s.connections id).released.1)).2 := by
  unfold release
  rw [Attempt.observe_get_bind]
  simp only [closes]
  rfl

theorem ConnectionId.release_settles (mode : Mode) (id : ConnectionId) (s : Session σ) :
    s.Settles ((id.release mode).observe s).1.error?.toList ((id.release mode).observe s).2 := by
  have given : s.Settles [] (s.setConnection id (s.connections id).released.1) :=
    .of_hides (.of_journal_eq rfl) rfl
  cases kept : (s.connections id).released.2 with
  | false =>
    rw [release_of_kept kept]
    exact given
  | true =>
    have traced := given.after (settles_trace .debug Trace.connectionTarget "Closing connection"
      [Trace.connectionField id, ("is_async", .bool mode.isAsync)] _)
    rw [release_of_closing kept]
    generalize (Engine.trace .debug Trace.connectionTarget "Closing connection" _ _).2 = u
      at traced ⊢
    have closed := Attempt.call_settles (.closeConnection id mode) mode
      (Driver.closeConnection id : Dual σ Unit) (fun _ => rfl) u
    rcases ends : (Attempt.call (.closeConnection id mode) mode
      (Driver.closeConnection id : Dual σ Unit)).observe u with ⟨failure | _, v⟩
    · rw [ends] at closed
      rw [ConnectionId.callNative, Attempt.observe_bind_error ends]
      exact traced.after closed
    · rw [ends] at closed
      rw [ConnectionId.callNative, Attempt.observe_bind_ok ends]
      exact traced.after closed

theorem ConnectionId.releaseOutcome_settles (mode : Mode) (id : ConnectionId) (s : Session σ) :
    s.Settles (id.releaseOutcome mode s).1.error?.toList (id.releaseOutcome mode s).2 := by
  have released := id.release_settles mode s
  have same : (id.releaseOutcome mode s).1.error? = ((id.release mode).observe s).1.error? := by
    change Outcome.error? (((id.release mode).observe s).1.map fun _ => ()) = _
    cases ((id.release mode).observe s).1 <;> rfl
  rw [same]
  exact released

/-- Where a command cannot be disposed, the error of closing its connection is overshadowed. -/
def NativeCommand.shadowed (mode : Mode) (id : ConnectionId) (c : NativeCommand) (s : Session σ) :
    List Error :=
  match c.discard mode s with
  | (.ok _, _) => []
  | (.error _, t) => (id.releaseOutcome mode t).1.error?.toList

theorem NativeCommand.cleanUp_pays (mode : Mode) (id : ConnectionId) (c : NativeCommand)
    (s : Session σ) :
    s.Pays (c.cleanUp mode id s).1.error? (c.shadowed mode id s) (c.cleanUp mode id s).2 := by
  have disposed := c.discard_settles mode s
  have cleans : c.cleanUp mode id s =
      ((c.discard mode s).1.andThen (id.releaseOutcome mode (c.discard mode s).2).1,
        (id.releaseOutcome mode (c.discard mode s).2).2) := rfl
  unfold shadowed
  rw [cleans]
  rcases ends : c.discard mode s with ⟨failure | _, t⟩
  all_goals
    rw [ends] at disposed
    have closed := disposed.trans (id.releaseOutcome_settles mode t)
  · exact closed.pays_returned
  · exact closed.pays_all

namespace Cursor

/-- Where a cursor cannot be drained, the error of closing it is overshadowed. -/
def shadowed (mode : Mode) (columns : List ReaderColumn) (detailed : Bool) (c : Cursor)
    (s : Session σ) : List Error :=
  match (c.drain mode columns detailed).observe s with
  | (.ok _, _) => []
  | (.error _, t) => Outcome.error? ((c.close mode).observe t).1 |>.toList

theorem drain_settles (mode : Mode) (columns : List ReaderColumn) (detailed : Bool) (c : Cursor)
    (s : Session σ) : s.Settles [] ((c.drain mode columns detailed).observe s).2 := by
  have hidden : Attempt.Obeys (Hides (σ := σ) .cleanups) (c.drain mode columns detailed) :=
    obeys_drain (fun _ reads => allows_hides (NativeCall.cleansUp_of_reads reads)) mode columns
      detailed
  exact .of_runs hidden (tries_drain (steady_watches s) (answers_of_eq rfl rfl)
    c mode columns detailed)

theorem load_pays (mode : Mode) (columns : List ReaderColumn) (detailed : Bool) (c : Cursor)
    (s : Session σ) :
    s.Pays ((c.load mode columns detailed).observe s).1.error? (c.shadowed mode columns detailed s)
      ((c.load mode columns detailed).observe s).2 := by
  have drained := c.drain_settles mode columns detailed s
  unfold load shadowed
  rw [Attempt.observe_outcome_bind]
  rcases drains : (c.drain mode columns detailed).observe s with ⟨failure | sets, t⟩
  all_goals
    rw [drains] at drained
    have closed := drained.trans (Attempt.call_settles (.closeCursor c mode) mode
      (Driver.closeCursor c) (fun _ => rfl) t)
    rw [Attempt.observe_lift_bind, Attempt.observe_outcome_bind]
    change s.Settles ((c.close mode).observe t).1.error?.toList ((c.close mode).observe t).2
      at closed
  · exact closed.pays
  · have same : (c.recordsAffected t).2 = t := rfl
    rw [same]
    rcases closes : (c.close mode).observe t with ⟨failure | _, u⟩
    all_goals rw [closes] at closed
    · exact closed.pays_all
    · exact closed.pays_all

end Cursor

namespace DataReader

theorem closeCursor_settles (mode : Mode) (cursor : DataCursor) (s : Session σ) :
    s.Settles (closeCursor mode cursor s).1.error?.toList (closeCursor mode cursor s).2 := by
  cases cursor with
  | native c => exact settles_call (fun _ => rfl) s
  | buffered b => exact .refl s

theorem announce_settles (mode : Mode) (r : DataReader σ) (b : ReaderBinding σ) (s : Session σ) :
    s.Settles [] (r.announce mode b s).2 := by
  have hidden : Engine.Obeys (Hides (σ := σ) .cleanups) (r.announce mode b) :=
    obeys_announce (hears_hides fun _ _ => rfl) fun l _ => eachHook_hides l
  exact .of_runs hidden (runs_announce (steady_watches s)
    (answers_of_eq rfl rfl) mode (readers_of_eq rfl rfl r)
    (bindings_of_eq rfl rfl b) trivial)

/-- What is overshadowed where the reader lets go of what it holds. -/
def shadowed (mode : Mode) (r : DataReader σ) (s : Session σ) : List Error :=
  match r.phase with
  | .bound b => b.command.shadowed mode b.info.connection
      (closeCursor mode b.cursor (r.announce mode b s).2).2
  | _ => []

theorem releaseBinding_pays (mode : Mode) (b : ReaderBinding σ) {s : Session σ}
    (kept : TraceLevel.warn.isKept s.traceLimit = true) :
    s.Pays (releaseBinding mode b s).1.error?
      (b.command.shadowed mode b.info.connection (closeCursor mode b.cursor s).2)
      (releaseBinding mode b s).2 := by
  have closed := closeCursor_settles mode b.cursor s
  unfold releaseBinding
  rw [Engine.bind_apply, Engine.bind_apply]
  rcases closes : closeCursor mode b.cursor s with ⟨failure | _, t⟩
  all_goals
    rw [closes] at closed
    dsimp only
    have cleaned := b.command.cleanUp_pays mode b.info.connection t
  · exact (closed.trans (cleaned.warn (by rwa [closed.limit]))).pays_returned
  · have paid := cleaned.after closed
    rcases cleans : b.command.cleanUp mode b.info.connection t with ⟨failure | _, u⟩
    all_goals rw [cleans] at paid
    · exact paid
    · exact paid.settles.pays

theorem dispose_pays (mode : Mode) (r : DataReader σ) {s : Session σ}
    (kept : TraceLevel.warn.isKept s.traceLimit = true) :
    s.Pays (r.dispose mode s).1.1.error? (r.shadowed mode s) (r.dispose mode s).2 := by
  unfold dispose shadowed
  rcases r.phase with _ | b | _
  · exact (Settles.refl s).pays
  · have announced := r.announce_settles mode b s
    exact (releaseBinding_pays mode b (by rwa [announced.limit])).after announced
  · exact (Settles.refl s).pays

theorem drop_settles (r : DataReader σ) {s : Session σ}
    (kept : TraceLevel.warn.isKept s.traceLimit = true) :
    s.Settles (r.shadowed .blocking s) (r.drop s).2 := by
  have disposed := r.dispose_pays .blocking kept
  unfold drop
  rw [Engine.bind_apply]
  rcases disposes : r.dispose .blocking s with ⟨⟨failure | _, _⟩, t⟩
  all_goals rw [disposes] at disposed
  · exact disposed.warning kept fun e is => failure.told_of_error [] is
  · exact disposed.settles

theorem rebind_settles (mode : Mode) (b : ReaderBinding σ) (r : DataReader σ) {s : Session σ}
    (kept : TraceLevel.warn.isKept s.traceLimit = true) :
    s.Settles (r.shadowed mode s) (r.rebind mode b s).2 :=
  (r.dispose_pays mode kept).warn kept

end DataReader

end SqlExecution
