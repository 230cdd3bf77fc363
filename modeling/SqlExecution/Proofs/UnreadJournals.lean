import SqlExecution.Engine.Transaction

/-! Nothing that is done with a transaction depends on what the journal says: from sessions that
differ in the past of their journals alone, it ends alike, and adds the same to both. -/

namespace SqlExecution

variable {σ α β : Type}

namespace Session

/-- Sessions that are the same but for the past of their journals. -/
def Abreast (past past' : List (Moment σ)) (s s' : Session σ) : Prop :=
  ∃ since, s.journal = past ++ since ∧ s' = { s with journal := past' ++ since }

theorem abreast_replaced (s : Session σ) (journal : List (Moment σ)) :
    Abreast s.journal journal s { s with journal } :=
  ⟨[], (List.append_nil _).symm, by rw [List.append_nil]⟩

end Session

open Session

namespace Engine

/-- A computation that does not look at the journal. -/
def Blind (m : Engine σ α) : Prop :=
  ∀ (past past' : List (Moment σ)) (s s' : Session σ), Abreast past past' s s' →
    (m s).1 = (m s').1 ∧ Abreast past past' (m s).2 (m s').2

theorem Blind.pure (a : α) : Blind (pure a : Engine σ α) := fun _ _ _ _ abreast => ⟨rfl, abreast⟩

theorem Blind.bind {m : Engine σ α} {f : α → Engine σ β} (first : Blind m)
    (rest : ∀ a, Blind (f a)) : Blind (m >>= f) := by
  intro past past' s s' abreast
  obtain ⟨same, step⟩ := first past past' s s' abreast
  rw [bind_apply, bind_apply, ← same]
  exact rest _ _ _ _ _ step

theorem Blind.map {m : Engine σ α} (f : α → β) (first : Blind m) : Blind (f <$> m) := by
  intro past past' s s' abreast
  obtain ⟨same, step⟩ := first past past' s s' abreast
  exact ⟨congrArg f same, step⟩

theorem Blind.get_bind {f : Session σ → Engine σ α}
    (same : ∀ s journal, f { s with journal } = f s) (rest : ∀ s, Blind (f s)) :
    Blind (get >>= f) := by
  rintro past past' s s' ⟨since, before, rfl⟩
  let s' : Session σ := { s with journal := past' ++ since }
  change (f s s).1 = (f s' s').1 ∧ Abreast past past' (f s s).2 (f s' s').2
  have seen : f s' = f s := same s _
  rw [seen]
  exact rest s past past' s s' ⟨since, before, rfl⟩

theorem blind_record (e : Entry) : Blind (record e : Engine σ Unit) := by
  rintro past past' s s' ⟨since, before, rfl⟩
  refine ⟨rfl, since ++ [⟨s.scene, e⟩], ?_, ?_⟩
  · exact (congrArg (· ++ _) before).trans (List.append_assoc ..)
  · rw [← List.append_assoc]
    rfl

theorem blind_act (a : Act σ α) : Blind (act a) := by
  rintro past past' s s' ⟨since, before, rfl⟩
  exact ⟨rfl, since, before, rfl⟩

theorem blind_modifyConnection (id : ConnectionId) (f : Connection σ → Connection σ) :
    Blind (modifyConnection id f) := by
  rintro past past' s s' ⟨since, before, rfl⟩
  exact ⟨rfl, since, before, rfl⟩

theorem blind_call (note : NativeCall) (a : Act σ α) : Blind (call note a) :=
  (blind_record _).bind fun _ => blind_act a

theorem blind_trace (level : TraceLevel) (target message : String)
    (fields : List (String × TraceValue)) :
    Blind (trace level target message fields : Engine σ Unit) := by
  refine Blind.get_bind (fun _ _ => rfl) fun s => ?_
  split
  · exact blind_record _
  · exact .pure ()

end Engine

namespace Attempt

def Blind (m : Attempt σ α) : Prop := Engine.Blind m.observe

theorem Blind.pure (a : α) : Blind (pure a : Attempt σ α) := Engine.Blind.pure _

theorem Blind.bind {m : Attempt σ α} {f : α → Attempt σ β} (first : Blind m)
    (rest : ∀ a, Blind (f a)) : Blind (m >>= f) := by
  unfold Blind
  rw [observe_bind]
  refine Engine.Blind.bind first fun o => ?_
  cases o with
  | ok a => exact rest a
  | error failure => exact .pure _

theorem Blind.get_bind {f : Session σ → Attempt σ α}
    (same : ∀ s journal, f { s with journal } = f s) (rest : ∀ s, Blind (f s)) :
    Blind (get >>= f) := by
  have observed : (get >>= f).observe = get >>= fun s => (f s).observe := rfl
  unfold Blind
  rw [observed]
  exact Engine.Blind.get_bind (fun s journal => by rw [same]) rest

theorem blind_lift {m : Engine σ α} (h : Engine.Blind m) : Blind (lift m) := h.map _

end Attempt

open Engine

namespace ConnectionId

variable [Driver σ]

theorem blind_release (mode : Mode) (id : ConnectionId) :
    Attempt.Blind (id.release mode : Attempt σ Bool) := by
  refine Attempt.Blind.get_bind (fun _ _ => rfl) fun s => ?_
  refine (Attempt.blind_lift (blind_modifyConnection _ _)).bind fun _ => ?_
  split
  · exact .pure _
  · refine (Attempt.blind_lift (blind_trace _ _ _ _)).bind fun _ => ?_
    exact Attempt.Blind.bind (blind_call _ _) fun _ => .pure _

theorem blind_releaseOutcome (mode : Mode) (id : ConnectionId) :
    Blind (id.releaseOutcome mode : Engine σ (Outcome Unit)) :=
  Blind.bind (blind_release mode id) fun _ => .pure _

end ConnectionId

namespace Transaction

variable [Driver σ]

theorem blind_clear (mode : Mode) (t : Transaction σ) : Blind (t.clear mode) := by
  refine (blind_modifyConnection _ _).bind fun _ => ?_
  split
  · exact .pure _
  · exact (t.connection.blind_releaseOutcome mode).bind fun _ => .pure _

theorem blind_complete (mode : Mode) (completion : Completion) (t : Transaction σ) :
    Blind (t.complete mode completion) := by
  unfold complete
  split
  · exact .pure _
  · refine Blind.get_bind (fun _ _ => rfl) fun s => ?_
    split
    · exact .pure _
    · refine (blind_call _ _).bind fun o => ?_
      rcases o with failure | _
      · cases failure with
        | error e => exact (blind_trace _ _ _ _).bind fun _ => .pure _
        | cancelled reason => exact .pure _
        | panicked message => exact .pure _
      · exact (blind_trace _ _ _ _).bind fun _ => blind_clear mode _

theorem blind_abort (mode : Mode) (t : Transaction σ) : Blind (t.abort mode) := by
  unfold abort
  split
  · exact (blind_trace _ _ _ _).bind fun _ => blind_call _ _
  · exact .pure _

theorem blind_dispose (mode : Mode) (t : Transaction σ) : Blind (t.dispose mode) := by
  unfold dispose
  split
  · exact .pure _
  · exact (blind_abort mode t).bind fun _ => (blind_clear mode _).bind fun _ => .pure _

theorem blind_drop (t : Transaction σ) : Blind t.drop := by
  unfold drop
  split
  · exact .pure _
  · refine (blind_dispose .blocking t).bind fun disposed => ?_
    split
    · exact blind_trace _ _ _ _
    · exact .pure _

end Transaction

end SqlExecution
