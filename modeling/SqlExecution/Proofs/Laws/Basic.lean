import SqlExecution.Engine.Hooks

/-! Laws of sessions. A law relates a session to what may become of it: which entries its journal
gains, say, or what stays true of its scene. A computation obeys a law if all that it does is
allowed, and every way to compose computations keeps to the law. -/

namespace SqlExecution

variable {σ α β ι : Type}

namespace Session

/-- Something is noted, with the scene that it finds. -/
def noted (e : Entry) (s : Session σ) : Session σ :=
  { s with journal := s.journal ++ [⟨s.scene, e⟩] }

def moved (f : Scene σ → Scene σ) (s : Session σ) : Session σ := { s with scene := f s.scene }

/-- A relation that goes on over any number of steps and overlooks identifiers and trace records. -/
class Law (R : Session σ → Session σ → Prop) : Prop where
  trans {s t u : Session σ} : R s t → R t u → R s u
  unseen {s t : Session σ} : t.journal = s.journal → t.scene = s.scene →
    t.connections = s.connections → s.nextSerial ≤ t.nextSerial → R s t
  traced (record : TraceRecord) (s : Session σ) : R s (s.noted (.trace record))

def Notes (R : Session σ → Session σ → Prop) (e : Entry) : Prop := ∀ s, R s (s.noted e)

def Lets (R : Session σ → Session σ → Prop) (f : Scene σ → Scene σ) : Prop := ∀ s, R s (s.moved f)

/-- Hooks of a kind may be called. -/
def Hears (R : Session σ → Session σ → Prop) (hook : Hook) : Prop :=
  ∀ d : Delivery, d.hook = hook → Notes R (.hook d)

variable {R : Session σ → Session σ → Prop}

theorem Law.refl [Law R] (s : Session σ) : R s s := Law.unseen rfl rfl rfl (Nat.le_refl _)

end Session

/-- A record that a command failed. -/
def TraceRecord.isReport (r : TraceRecord) : Bool :=
  decide (r.level = .error) && decide (r.target = Trace.commandTarget)

namespace Session

/-- A law that may heed which records are kept, and the records of failed commands. -/
class ReportingLaw (R : Session σ → Session σ → Prop) : Prop where
  trans {s t u : Session σ} : R s t → R t u → R s u
  unseen {s t : Session σ} : t.journal = s.journal → t.scene = s.scene →
    t.connections = s.connections → s.nextSerial ≤ t.nextSerial → t.traceLimit = s.traceLimit →
    R s t
  remarked {record : TraceRecord} (ordinary : record.isReport = false) (s : Session σ) :
    R s (s.noted (.trace record))

variable {R : Session σ → Session σ → Prop}

instance [Law R] : ReportingLaw R where
  trans := Law.trans
  unseen journal scene connections serials _ := Law.unseen journal scene connections serials
  remarked _ := Law.traced _

theorem ReportingLaw.refl [ReportingLaw R] (s : Session σ) : R s s :=
  ReportingLaw.unseen rfl rfl rfl (Nat.le_refl _) rfl

end Session

open Session

/-- What a call does to the scene. -/
def NativeCall.effect [Driver σ] (call : NativeCall) (s : Scene σ) : Scene σ :=
  match call with
  | openConnection id mode => ((Driver.openConnection id).perform mode s).2
  | closeConnection id mode => ((Driver.closeConnection id).perform mode s).2
  | createCommand id => (Driver.createCommand id s).2
  | begin id mode isolation => ((Driver.begin id isolation).perform mode s).2
  | commit t mode => ((Driver.commit t).perform mode s).2
  | rollback t mode => ((Driver.rollback t).perform mode s).2
  | execute .nonQuery c mode => ((Driver.executeNonQuery c).perform mode s).2
  | execute .scalar c mode => ((Driver.executeScalar c).perform mode s).2
  | execute .reader c mode => ((Driver.executeReader c).perform mode s).2
  | clearParameters _ => s
  | dispose c mode => ((Driver.dispose c).perform mode s).2
  | columnName c ordinal => (Driver.columnName c ordinal s).2
  | read c mode => ((Driver.read c).perform mode s).2
  | nextResult c mode => ((Driver.nextResult c).perform mode s).2
  | getValue c ordinal => (Driver.getValue c ordinal s).2
  | closeCursor c mode => ((Driver.closeCursor c).perform mode s).2

/-- A call may be noted and made. -/
structure Session.Allows [Driver σ] (R : Session σ → Session σ → Prop) (call : NativeCall) :
    Prop where
  notes : Notes R (.native call)
  lets : Lets R call.effect

variable {R : Session σ → Session σ → Prop}

namespace Engine

def Obeys (R : Session σ → Session σ → Prop) (m : Engine σ α) : Prop := ∀ s, R s (m s).2

theorem obeys_record {e : Entry} (notes : Notes R e) : Obeys R (record e) := notes

theorem obeys_act {a : Act σ α} (lets : Lets R fun s => (a s).2) : Obeys R (act a) := lets

theorem Obeys.map {m : Engine σ α} (f : α → β) (h : Obeys R m) : Obeys R (f <$> m) := h

variable [ReportingLaw R]

theorem Obeys.pure (a : α) : Obeys R (pure a) := ReportingLaw.refl

theorem Obeys.bind {m : Engine σ α} {f : α → Engine σ β} (first : Obeys R m)
    (rest : ∀ a, Obeys R (f a)) : Obeys R (m >>= f) := fun s => ReportingLaw.trans (first s) (rest _ _)

theorem obeys_of_silent {m : Engine σ α} (silent : ∀ s, (m s).2 = s) : Obeys R m := fun s => by
  rw [silent s]
  exact ReportingLaw.refl s

theorem obeys_get : Obeys R (get : Engine σ (Session σ)) := ReportingLaw.refl

theorem obeys_modify {f : Session σ → Session σ} (journal : ∀ s, (f s).journal = s.journal)
    (scene : ∀ s, (f s).scene = s.scene) (connections : ∀ s, (f s).connections = s.connections)
    (serials : ∀ s, s.nextSerial ≤ (f s).nextSerial)
    (limit : ∀ s, (f s).traceLimit = s.traceLimit) : Obeys R (modify f : Engine σ Unit) :=
  fun s => ReportingLaw.unseen (journal s) (scene s) (connections s) (serials s) (limit s)

theorem obeys_call [Driver σ] {note : NativeCall} {a : Act σ α} (allows : Allows R note)
    (real : ∀ s, (a s).2 = note.effect s) : Obeys R (call note a) := by
  refine (obeys_record allows.notes).bind fun _ => obeys_act ?_
  rw [funext real]
  exact allows.lets

theorem obeys_remark (level : TraceLevel) (target message : String)
    (fields : List (String × TraceValue))
    (ordinary : (⟨level, target, message, fields⟩ : TraceRecord).isReport = false := by rfl) :
    Obeys R (trace level target message fields) := by
  unfold trace
  refine obeys_get.bind fun _ => ?_
  split
  · exact ReportingLaw.remarked ordinary
  · exact .pure ()

omit [ReportingLaw R] in
theorem obeys_trace [Law R] (level : TraceLevel) (target message : String)
    (fields : List (String × TraceValue)) : Obeys R (trace level target message fields) := by
  unfold trace
  refine obeys_get.bind fun _ => ?_
  split
  · exact Law.traced _
  · exact .pure ()

theorem obeys_warn (target message : String) (fields : List (String × TraceValue))
    (o : Outcome Unit) : Obeys R (warn target message fields o) := by
  unfold warn
  split
  · exact obeys_remark _ _ _ _
  · exact .pure ()

theorem obeys_raising (gate : Logger σ → Option TraceLevel → Bool) (logger : Option (Logger σ)) :
    Obeys R (raising gate logger) := obeys_get.bind fun _ => .pure _

theorem obeys_newTicket : Obeys R (newTicket : Engine σ Ticket) :=
  fun _ => ReportingLaw.unseen rfl rfl rfl (Nat.le_refl _) rfl

theorem obeys_mint : Obeys R (mint : Engine σ Nat) :=
  fun _ => ReportingLaw.unseen rfl rfl rfl (Nat.le_succ _) rfl

theorem obeys_mintCommand : Obeys R (mintCommand : Engine σ CommandId) :=
  fun _ => ReportingLaw.unseen rfl rfl rfl (Nat.le_refl _) rfl

theorem obeys_commandId (t : Ticket) : Obeys R (commandId t) := by
  unfold commandId
  refine obeys_get.bind fun _ => ?_
  split
  · exact .pure _
  · refine obeys_mintCommand.bind fun id => ?_
    have kept : Obeys R (modify (·.setCommandId t id) : Engine σ Unit) :=
      obeys_modify (fun _ => rfl) (fun _ => rfl) (fun _ => rfl) (fun _ => Nat.le_refl _)
        fun _ => rfl
    exact kept.bind fun _ => .pure _

theorem obeys_forM {f : ι → Engine σ Unit} {is : List ι} (each : ∀ i ∈ is, Obeys R (f i)) :
    Obeys R (is.forM f) := by
  induction is with
  | nil => exact .pure ()
  | cons i rest ih =>
    have first := each i (List.mem_cons_self ..)
    exact first.bind fun _ => ih fun j member => each j (List.mem_cons_of_mem _ member)

end Engine

namespace Attempt

theorem observe_bind_apply (m : Attempt σ α) (f : α → Attempt σ β) (s : Session σ) :
    (m >>= f).observe s =
      match m.observe s with
      | (.ok a, t) => (f a).observe t
      | (.error failure, t) => (.error failure, t) := by
  rw [observe_bind, Engine.bind_apply]
  rcases m.observe s with ⟨_ | a, t⟩ <;> rfl

theorem observe_get_bind (f : Session σ → Attempt σ β) (s : Session σ) :
    ((get : Attempt σ (Session σ)) >>= f).observe s = (f s).observe s := observe_bind_apply _ _ _

theorem observe_lift_bind (m : Engine σ α) (f : α → Attempt σ β) (s : Session σ) :
    (lift m >>= f).observe s = (f (m s).1).observe (m s).2 := observe_bind_apply _ _ _

theorem observe_outcome_bind (m : Attempt σ α) (f : Outcome α → Attempt σ β) (s : Session σ) :
    (m.outcome >>= f).observe s = (f (m.observe s).1).observe (m.observe s).2 :=
  observe_bind_apply _ _ _

theorem observe_bind_ok {m : Attempt σ α} {s t : Session σ} {a : α}
    (ends : m.observe s = (.ok a, t))
    (f : α → Attempt σ β) : (m >>= f).observe s = (f a).observe t := by
  rw [observe_bind_apply, ends]

theorem observe_bind_error {m : Attempt σ α} {s t : Session σ} {failure : Failure}
    (ends : m.observe s = (.error failure, t)) (f : α → Attempt σ β) :
    (m >>= f).observe s = (.error failure, t) := by
  rw [observe_bind_apply, ends]

theorem observe_bind_fst_error {m : Attempt σ α} {s : Session σ} {failure : Failure}
    (fails : (m.observe s).1 = .error failure) (f : α → Attempt σ β) :
    ((m >>= f).observe s).1 = .error failure := by
  rcases ends : m.observe s with ⟨failure' | a, t⟩
  all_goals
    rw [ends] at fails
    cases fails
  rw [observe_bind_error ends]

theorem ok_of_bind_ok {m : Attempt σ α} {f : α → Attempt σ β} {s u : Session σ} {b : β}
    (ends : (m >>= f).observe s = (.ok b, u)) :
    ∃ a t, m.observe s = (.ok a, t) ∧ (f a).observe t = (.ok b, u) := by
  rw [observe_bind_apply] at ends
  rcases first : m.observe s with ⟨failure | a, t⟩
  · rw [first] at ends
    cases ends
  · rw [first] at ends
    exact ⟨a, t, rfl, ends⟩

theorem observe_bind_pure_snd (m : Attempt σ α) (f : α → β) (s : Session σ) :
    ((m >>= fun a => pure (f a)).observe s).2 = (m.observe s).2 := by
  rw [observe_bind_apply]
  rcases m.observe s with ⟨_ | a, t⟩ <;> rfl

def Obeys (R : Session σ → Session σ → Prop) (m : Attempt σ α) : Prop := Engine.Obeys R m.observe

theorem obeys_lift {m : Engine σ α} (h : Engine.Obeys R m) : Obeys R (lift m) := h.map _

theorem obeys_outcome {m : Attempt σ α} (h : Obeys R m) : Obeys R m.outcome := Engine.Obeys.map _ h

variable [ReportingLaw R]

theorem Obeys.pure (a : α) : Obeys R (pure a : Attempt σ α) := Engine.Obeys.pure _

theorem Obeys.bind {m : Attempt σ α} {f : α → Attempt σ β} (first : Obeys R m)
    (rest : ∀ a, Obeys R (f a)) : Obeys R (m >>= f) := by
  unfold Obeys
  rw [observe_bind]
  refine Engine.Obeys.bind first fun o => ?_
  cases o with
  | ok a => exact rest a
  | error failure => exact .pure _

theorem Obeys.after {f : α → Attempt σ β} (rest : ∀ a, Obeys R (f a)) (m : Attempt σ α)
    (s : Session σ) : R (m.observe s).2 ((m >>= f).observe s).2 := by
  rw [observe_bind_apply]
  rcases m.observe s with ⟨failure | a, t⟩
  · exact ReportingLaw.refl t
  · exact rest a t

theorem obeys_throw (failure : Failure) : Obeys R (throw failure : Attempt σ α) :=
  Engine.Obeys.pure _

theorem obeys_ofOutcome (o : Outcome α) : Obeys R (ofOutcome o : Attempt σ α) :=
  Engine.Obeys.pure o

theorem obeys_get : Obeys R (get : Attempt σ (Session σ)) := ReportingLaw.refl

theorem obeys_remark (level : TraceLevel) (target message : String)
    (fields : List (String × TraceValue))
    (ordinary : (⟨level, target, message, fields⟩ : TraceRecord).isReport = false := by rfl) :
    Obeys R (trace level target message fields) :=
  obeys_lift (Engine.obeys_remark _ _ _ _ ordinary)

omit [ReportingLaw R] in
theorem obeys_trace [Law R] (level : TraceLevel) (target message : String)
    (fields : List (String × TraceValue)) : Obeys R (trace level target message fields) :=
  obeys_lift (Engine.obeys_trace _ _ _ _)

theorem obeys_checkpoint (mode : Mode) : Obeys R (checkpoint mode : Attempt σ Unit) :=
  obeys_get.bind fun _ => obeys_ofOutcome _

theorem obeys_call [Driver σ] {note : NativeCall} {mode : Mode} {d : Dual σ α}
    (allows : Allows R note) (real : ∀ s, (d.perform mode s).2 = note.effect s) :
    Obeys R (call note mode d) := Engine.obeys_call allows real

theorem obeys_callPlain [Driver σ] {note : NativeCall} {a : Act σ (Result α)}
    (allows : Allows R note) (real : ∀ s, (a s).2 = note.effect s) :
    Obeys R (callPlain note a) := (Engine.obeys_call allows real).map _

theorem obeys_foldHooks {deliver : ι → α → Engine σ Unit} {hook : ι → α → Dual σ α} {mode : Mode}
    (stops : Bool) {is : List ι} (delivers : ∀ i a, Engine.Obeys R (deliver i a))
    (lets : ∀ i ∈ is, ∀ a, Lets R fun s => ((hook i a).perform mode s).2) (a : α) :
    Obeys R (foldHooks mode stops deliver hook is a) := by
  -- Each hook gets what the one before it returned, so the value varies along the induction.
  induction is generalizing a with
  | nil => exact .pure _
  | cons i rest ih =>
    have later := ih fun j member => lets j (List.mem_cons_of_mem _ member)
    have call : ∀ _ : PUnit, Obeys R (do
        lift (deliver i a)
        let next ← ExceptT.mk (Engine.act ((hook i a).perform mode))
        foldHooks mode stops deliver hook rest next) := by
      intro _
      refine (obeys_lift (delivers i a)).bind fun _ => ?_
      exact Obeys.bind (m := ExceptT.mk _) (lets i (List.mem_cons_self ..) a) later
    unfold foldHooks
    cases stops with
    | false => exact call ⟨⟩
    | true => exact (obeys_checkpoint mode).bind call

end Attempt

end SqlExecution
