import SqlExecution.Proofs.AmbientTransactions
import SqlExecution.Proofs.Journals

/-! Single steps of a transaction wrapper: how committing and rolling back go, and what disposing it
does. The driver is called first; only then the wrapper ceases to be the ambient transaction and
gives its open back. -/

namespace SqlExecution

variable {σ α β : Type}

open Session

/-- All calls to the driver. -/
def Facet.called : Facet where
  sees
    | .native _ => true
    | _ => false

theorem Facet.calls_filter (ms : List (Moment σ)) :
    (ms.filter (called.sees ·.entry)).filterMap (·.entry.call?) =
      ms.filterMap (·.entry.call?) := by
  induction ms with
  | nil => rfl
  | cons m rest ih =>
    rcases m with ⟨_, entry⟩
    cases entry <;> simp [called, Entry.call?] at ih ⊢ <;> exact ih

namespace Session

variable {s t u : Session σ} {ms ns : List (Moment σ)}

theorem Shows.calls (h : Shows .called s ms t) :
    t.calls = s.calls ++ ms.filterMap (·.entry.call?) := by
  obtain ⟨added, journal, rfl⟩ := h
  have recorded : added.filterMap (·.entry.call?) = (added.map (·.entry)).filterMap Entry.call? :=
    (List.filterMap_map (f := Moment.entry) (g := Entry.call?) (l := added)).symm
  rw [Facet.calls_filter, recorded]
  simp only [Session.calls, entries, journal, List.map_append, List.filterMap_append]

theorem Shows.unique {f : Facet} (h : Shows f s ms t) (h' : Shows f s ns t) : ms = ns := by
  obtain ⟨added, journal, rfl⟩ := h
  obtain ⟨added', journal', rfl⟩ := h'
  rw [List.append_cancel_left (journal.symm.trans journal')]

/-- Only the scene changed from one moment to the other, and trace records apart these moments were
added. -/
structure Adds (s : Session σ) (ms : List (Moment σ)) (t : Session σ) : Prop where
  rest : t = { s with scene := t.scene, journal := t.journal }
  shows (f : Facet) : s.Shows f (ms.filter (f.sees ·.entry)) t

theorem Adds.refl (s : Session σ) : s.Adds [] s := ⟨rfl, fun _ => .of_journal_eq rfl⟩

theorem Adds.trans (first : s.Adds ms t) (second : t.Adds ns u) : s.Adds (ms ++ ns) u := by
  refine ⟨?_, fun f => ?_⟩
  · rw [second.rest, first.rest]
  · rw [List.filter_append]
    exact (first.shows f).trans (second.shows f)

theorem Adds.connections (h : s.Adds ms t) : t.connections = s.connections := by rw [h.rest]

theorem Adds.issues (h : s.Adds ms t) : s.Issues (ms.filterMap (·.entry.call?)) t :=
  ⟨h.connections, by rw [(h.shows .called).calls, Facet.calls_filter]⟩

end Session

namespace Engine

theorem adds_trace (level : TraceLevel) (target message : String)
    (fields : List (String × TraceValue)) (s : Session σ) :
    s.Adds [] (trace level target message fields s).2 ∧
      (trace level target message fields s).2.scene = s.scene := by
  unfold trace
  rw [bind_apply]
  split
  · exact ⟨⟨rfl, fun f => hides_noted (f.untraced _) s⟩, rfl⟩
  · exact ⟨⟨rfl, fun _ => .of_journal_eq rfl⟩, rfl⟩

theorem adds_call (note : NativeCall) (a : Act σ α) (s : Session σ) :
    s.Adds [⟨s.scene, .native note⟩] (call note a s).2 := by
  refine ⟨rfl, fun f => ?_⟩
  -- The driver moves the scene, which leaves the journal as it is.
  have noted : s.Shows f ([⟨s.scene, .native note⟩].filter (f.sees ·.entry))
      (s.noted (.native note)) := by
    cases seen : f.sees (.native note) with
    | false => simpa [seen] using hides_noted (σ := σ) seen s
    | true => simpa [seen] using shows_noted (σ := σ) seen s
  exact noted.before (.of_journal_eq rfl)

end Engine

namespace Transaction

/-- The session once the wrapper is no longer the ambient transaction of its connection. -/
def ceased (t : Transaction σ) (s : Session σ) : Session σ :=
  (Engine.modifyConnection t.connection (fun k =>
    if k.ambient.any (·.id = t.id) then { k with ambient := none } else k) s).2

theorem ceased_openCount (t : Transaction σ) (s : Session σ) :
    (t.ceased s).openCount = s.openCount :=
  openCount_modifyConnection (fun k => by split <;> rfl) t.connection s

variable [Driver σ]

theorem clear_of_released {t : Transaction σ} (released : t.released = true) (mode : Mode)
    (s : Session σ) : t.clear mode s = ((.ok (), t), t.ceased s) := by
  unfold clear
  rw [Engine.bind_apply, if_pos released]
  rfl

theorem clear_of_held {t : Transaction σ} (held : t.released = false) (mode : Mode)
    (s : Session σ) :
    t.clear mode s =
      let (outcome, u) := t.connection.releaseOutcome mode (t.ceased s)
      ((outcome, { t with released := true }), u) := by
  unfold clear
  rw [Engine.bind_apply, if_neg (by simp [held])]
  rfl

/-- How committing or rolling back goes, to its outcome, the wrapper and the session after it. -/
inductive Completing (mode : Mode) (completion : Completion) (t : Transaction σ) (s : Session σ) :
    Outcome Unit → Transaction σ → Session σ → Prop where
  | refused (ended : t.state ≠ .active) :
      Completing mode completion t s (.error (.error t.completedError)) t s
  | stopped {failure : Failure} (active : t.state = .active)
      (stops : mode.checkpoint s.scene.cancelled = .error failure) :
      Completing mode completion t s (.error failure) t s
  | failed {failure : Failure} {u : Session σ} (active : t.state = .active)
      (enters : mode.checkpoint s.scene.cancelled = .ok ())
      (fails : ((completion.native t.native).perform mode s.scene).1 = .error failure)
      (adds : s.Adds [⟨s.scene, .native (completion.note t.native mode)⟩] u) :
      Completing mode completion t s (.error failure) t u
  | succeeded {v : Session σ} (active : t.state = .active)
      (enters : mode.checkpoint s.scene.cancelled = .ok ())
      (succeeds : ((completion.native t.native).perform mode s.scene).1 = .ok ())
      (adds : s.Adds [⟨s.scene, .native (completion.note t.native mode)⟩] v) :
      Completing mode completion t s (clear mode { t with state := completion.state } v).1.1
        (clear mode { t with state := completion.state } v).1.2
        (clear mode { t with state := completion.state } v).2

open Trace in
/-- What is left to do when the driver has answered. -/
def conclude (mode : Mode) (completion : Completion) (t : Transaction σ) :
    Outcome Unit → Engine σ (Outcome Unit × Transaction σ)
  | .ok () => do
    Engine.trace .debug transactionTarget (completion.participle ++ " transaction")
      [transactionField t.id, connectionField t.connection]
    clear mode { t with state := completion.state }
  | .error failure => do
    if let .error e := failure then
      Engine.trace .error transactionTarget ("Transaction " ++ completion.name ++ " failed")
        [transactionField t.id, connectionField t.connection, errorField e]
    return (.error failure, t)

theorem complete_of_stopped {t : Transaction σ} (active : t.state = .active) {mode : Mode}
    {s : Session σ} {failure : Failure}
    (stops : mode.checkpoint s.scene.cancelled = .error failure) (completion : Completion) :
    t.complete mode completion s = ((.error failure, t), s) := by
  have looked : (get : Engine σ (Session σ)) s = (s, s) := rfl
  unfold complete
  rw [if_neg (by simp [active]), Engine.bind_apply, looked, stops]
  rfl

theorem complete_of_called {t : Transaction σ} (active : t.state = .active) {mode : Mode}
    {s u : Session σ} (enters : mode.checkpoint s.scene.cancelled = .ok ()) {completion : Completion}
    {answer : Outcome Unit} (calls : Engine.call (completion.note t.native mode)
      ((completion.native t.native).perform mode) s = (answer, u)) :
    t.complete mode completion s = t.conclude mode completion answer u := by
  have looked : (get : Engine σ (Session σ)) s = (s, s) := rfl
  unfold complete
  rw [if_neg (by simp [active]), Engine.bind_apply, looked, enters]
  dsimp only
  rw [Engine.bind_apply, Attempt.observe_call, calls]
  rcases answer with failure | _ <;> rfl

theorem conclude_ok (mode : Mode) (completion : Completion) (t : Transaction σ) (s : Session σ) :
    ∃ v, s.Adds [] v ∧
      t.conclude mode completion (.ok ()) s = clear mode { t with state := completion.state } v :=
  ⟨_, (Engine.adds_trace _ _ _ _ s).1, rfl⟩

theorem conclude_error (mode : Mode) (completion : Completion) (t : Transaction σ)
    (failure : Failure) (s : Session σ) :
    ∃ u, s.Adds [] u ∧ t.conclude mode completion (.error failure) s = ((.error failure, t), u) := by
  cases failure with
  | error e => exact ⟨_, (Engine.adds_trace _ _ _ _ s).1, rfl⟩
  | cancelled reason => exact ⟨s, .refl s, rfl⟩
  | panicked message => exact ⟨s, .refl s, rfl⟩

theorem complete_of_inactive {t : Transaction σ} (inactive : t.state ≠ .active) (mode : Mode)
    (completion : Completion) (s : Session σ) :
    t.complete mode completion s = ((.error (.error t.completedError), t), s) := by
  unfold complete
  rw [if_pos inactive]
  rfl

theorem complete_completing (mode : Mode) (completion : Completion) (t : Transaction σ)
    (s : Session σ) :
    Completing mode completion t s (t.complete mode completion s).1.1
      (t.complete mode completion s).1.2 (t.complete mode completion s).2 := by
  by_cases active : t.state = .active
  · rcases enters : mode.checkpoint s.scene.cancelled with failure | _
    · rw [complete_of_stopped active enters]
      exact .stopped active enters
    · have called := Engine.adds_call (completion.note t.native mode)
        ((completion.native t.native).perform mode) s
      have answer : ((completion.native t.native).perform mode s.scene).1 =
          (Engine.call (completion.note t.native mode)
            ((completion.native t.native).perform mode) s).1 := rfl
      rcases ends : Engine.call (completion.note t.native mode)
        ((completion.native t.native).perform mode) s with ⟨failure | _, v⟩
      all_goals
        rw [complete_of_called active enters ends]
        rw [ends] at answer called
      · obtain ⟨u, quiet, concluded⟩ := conclude_error mode completion t failure v
        rw [concluded]
        exact .failed active enters answer (called.trans quiet)
      · obtain ⟨u, quiet, concluded⟩ := conclude_ok mode completion t v
        rw [concluded]
        exact .succeeded active enters answer (called.trans quiet)
  · rw [complete_of_inactive active]
    exact .refused active

theorem abort_of_own {t : Transaction σ} (own : t.state = .active ∧ t.owned) (mode : Mode)
    (s : Session σ) :
    (t.abort mode s).1 = ((Driver.rollback t.native).perform mode s.scene).1 ∧
      s.Adds [⟨s.scene, .native (.rollback t.native mode)⟩] (t.abort mode s).2 := by
  unfold abort
  rw [if_pos own, Engine.bind_apply]
  obtain ⟨quiet, scene⟩ := Engine.adds_trace .debug Trace.transactionTarget
    "Rolling back transaction on dispose" [Trace.transactionField t.id] s
  rw [← scene]
  exact ⟨rfl, quiet.trans (Engine.adds_call _ _ _)⟩

theorem abort_of_other {t : Transaction σ} (other : ¬ (t.state = .active ∧ t.owned)) (mode : Mode)
    (s : Session σ) : t.abort mode s = (.ok (), s) := by
  unfold abort
  rw [if_neg other]
  rfl

theorem dispose_of_undisposed {t : Transaction σ} (undisposed : t.state ≠ .disposed) (mode : Mode)
    (s : Session σ) :
    t.dispose mode s =
      let (rolledBack, v) := t.abort mode s
      let ((cleared, t'), u) := clear mode { t with state := .disposed } v
      ((rolledBack.andThen cleared, t'), u) := by
  unfold dispose
  rw [if_neg undisposed]
  rfl

theorem drop_adds (t : Transaction σ) (s : Session σ) :
    (t.dispose .blocking s).2.Adds [] (t.drop s).2 := by
  by_cases spent : t.state = .disposed
  · rw [dispose_of_disposed _ spent, drop_of_disposed spent]
    exact .refl s
  · unfold drop
    rw [if_neg spent, Engine.bind_apply]
    rcases (t.dispose .blocking s).1.1 with failure | _
    · exact (Engine.adds_trace _ _ _ _ _).1
    · exact .refl _

end Transaction

end SqlExecution
