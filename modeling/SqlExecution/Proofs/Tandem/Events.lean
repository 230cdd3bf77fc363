import SqlExecution.Proofs.Tandem.Basic

/-! Raising events in tandem. Both runs write the same trace records of an event where the logger
describes their commands in the same way, and the hooks do the same for either. -/

namespace SqlExecution

variable {σ α β γ δ : Type}

open Session Trace

theorem TraceRecord.tells_of_fields {r : TraceRecord} {e : CommandEvent}
    {rest : List (String × TraceValue)} (fields : r.fields = commandFields e ++ rest)
    (method : ∀ v ∈ rest.lookup "method", v = .text e.method.verb)
    (source : ∀ v ∈ rest.lookup "source", v = .text e.source.name) : r.Tells e := by
  have lookup : ∀ name, r.field? name = (commandFields e ++ rest).lookup name := fun name => by
    rw [field?, fields]
  refine ⟨?_, ?_, ?_, ?_⟩
  all_goals rw [lookup]
  · rfl
  · rfl
  · exact method
  · exact source

/-- Both offer nothing, or such values. -/
def SameOffer (V : α → β → Prop) : Interception α → Interception β → Prop
  | .noResult, .noResult => True
  | .hasResult a, .hasResult b => V a b
  | _, _ => False

theorem sameOffer_eq {i i' : Interception α} (same : SameOffer Eq i i') : i = i' := by
  cases i <;> cases i'
  · rfl
  · cases same
  · cases same
  · exact congrArg _ same

theorem sameOffer_refl {V : α → α → Prop} (refl : ∀ a, V a a) (i : Interception α) :
    SameOffer V i i := by
  cases i with
  | noResult => trivial
  | hasResult a => exact refl a

namespace Tandem

/-- Hooks that do the same in both runs. -/
structure SuitsAround (t : Tandem σ) (a : Around σ α) : Prop where
  executing {c c' : NativeCommand} (alike : t.commands c c') (event : CommandEvent)
    (r : Interception α) (mode : Mode) :
    Act.Alike t.scenes Eq ((a.executing c event r).perform mode)
      ((a.executing c' event r).perform mode)
  executed {c c' : NativeCommand} (alike : t.commands c c') (event : CommandEvent) (r : α)
    (mode : Mode) :
    Act.Alike t.scenes Eq ((a.executed c event r).perform mode)
      ((a.executed c' event r).perform mode)

structure SuitsHooks (t : Tandem σ) (i : CommandInterceptor σ) : Prop where
  creating (event : CommandEvent) {r r' : Interception NativeCommand}
    (alike : SameOffer t.commands r r') :
    Act.Alike t.scenes (SameEnd (SameOffer t.commands)) (i.creating event r) (i.creating event r')
  created (event : CommandEvent) {c c' : NativeCommand} (alike : t.commands c c') :
    Act.Alike t.scenes (fun x x' => t.commands x.1 x'.1 ∧ x'.2 = x.2) (i.created event c)
      (i.created event c')
  nonQuery : t.SuitsAround i.nonQuery
  scalar : t.SuitsAround i.scalar
  reader : t.SuitsAround i.reader
  failed (mode : Mode) {c c' : NativeCommand} (alike : t.commands c c') (event : CommandEvent)
    (e : Error) : Act.Alike t.scenes Eq (i.failed mode c event e) (i.failed mode c' event e)
  disposing (mode : Mode) {c c' : NativeCommand} (alike : t.commands c c') (event : CommandEvent)
    (d : Disposal) :
    Act.Alike t.scenes Eq (i.disposing mode c event d) (i.disposing mode c' event d)

/-- A logger that describes the commands of both runs in the same way. -/
structure Suits (t : Tandem σ) (l : Logger σ) : Prop where
  text {c c' : NativeCommand} (alike : t.commands c c') : c'.text = c.text
  describe {c c' : NativeCommand} (alike : t.commands c c') : l.describe c' = l.describe c
  hooks : ∀ i ∈ l.commandInterceptors, t.SuitsHooks i

theorem suits_of_eq {t : Tandem σ} (scenes : t.scenes = Eq) (commands : t.commands = Eq)
    (l : Logger σ) : t.Suits l := by
  have around : ∀ {α : Type} (a : Around σ α), t.SuitsAround a := fun a => by
    refine ⟨fun alike event r mode => ?_, fun alike event r mode => ?_⟩
    all_goals
      rw [commands] at alike
      cases alike
      rw [scenes]
      exact Act.alike_self (fun _ => rfl) _
  refine ⟨fun alike => ?_, fun alike => ?_, fun i _ => ⟨fun event r r' alike => ?_,
    fun event c c' alike => ?_, around _, around _, around _, fun mode c c' alike event e => ?_,
    fun mode c c' alike event d => ?_⟩⟩
  all_goals rw [commands] at alike
  · cases alike
    rfl
  · cases alike
    rfl
  · cases sameOffer_eq alike
    rw [scenes, commands]
    exact Act.alike_self (sameEnd_refl (sameOffer_refl fun _ => rfl)) _
  · cases alike
    rw [scenes, commands]
    exact Act.alike_self (fun _ => ⟨rfl, rfl⟩) _
  · cases alike
    rw [scenes]
    exact Act.alike_self (fun _ => rfl) _
  · cases alike
    rw [scenes]
    exact Act.alike_self (fun _ => rfl) _

variable {t : Tandem σ} {event : CommandEvent}

theorem allows_delivery (may : t.events event) {d : Delivery} {c : Option NativeCommand}
    (subject : d.subject = .command event c) : t.Allows (.hook d) :=
  .inr ⟨event, may, c, subject⟩

section Raising

variable (watches : t.Watches) (may : t.events event)
include watches may

theorem runs_delivery (i : CommandInterceptor σ) (hook : Hook) (mode : Mode)
    (c c' : Option NativeCommand) (input input' : HookInput) :
    t.Runs Eq (Logger.delivery i hook mode event c input)
      (Logger.delivery i hook mode event c' input') :=
  runs_record watches rfl rfl (allows_delivery may rfl)

theorem runs_commandTrace {level : TraceLevel} {target message : String}
    {rest : List (String × TraceValue)}
    (method : ∀ v ∈ rest.lookup "method", v = .text event.method.verb)
    (source : ∀ v ∈ rest.lookup "source", v = .text event.source.name) :
    t.Runs Eq (Engine.trace level target message (commandFields event ++ rest))
      (Engine.trace level target message (commandFields event ++ rest)) :=
  runs_trace watches (.inr ⟨event, may, TraceRecord.tells_of_fields rfl method source⟩)

variable {l : Logger σ} (suits : t.Suits l)
include suits

theorem tries_commandCreating :
    t.Tries (SameOffer t.commands) (l.commandCreating event) (l.commandCreating event) := by
  refine Tries.andThen (.lift (runs_commandTrace watches may ?_ ?_)) fun _ => ?_
  · simp [methodField]
  · simp [List.lookup_cons, methodField]
  · refine tries_foldHooks watches (fun i a a' _ => runs_delivery watches may i _ _ _ _ _ _)
      (fun i member r r' alike => ?_) (show SameOffer t.commands .noResult .noResult from trivial)
    rw [Dual.perform_ofBlocking, Dual.perform_ofBlocking]
    intro x x' scenes
    obtain ⟨value, scene⟩ := (suits.hooks i member).creating event alike x x' scenes
    exact ⟨value.ofResult, scene⟩

omit suits in
theorem runs_foldCreated {is : List (CommandInterceptor σ)} (hooks : ∀ i ∈ is, t.SuitsHooks i)
    {c c' : NativeCommand} (alike : t.commands c c') :
    t.Runs (fun x x' => t.commands x.1 x'.1 ∧ x'.2 = x.2) (Logger.foldCreated event is c)
      (Logger.foldCreated event is c') := by
  induction is generalizing c c' with
  | nil => exact .pure ⟨alike, rfl⟩
  | cons i rest ih =>
    unfold Logger.foldCreated
    refine (runs_delivery watches may i _ _ _ _ _ _).andThen fun _ => ?_
    have created := (hooks i (List.mem_cons_self ..)).created event alike
    refine (runs_act watches created).bind fun x x' same => ?_
    obtain ⟨c₁, o⟩ := x
    obtain ⟨c₁', o'⟩ := x'
    obtain ⟨alike, same⟩ := same
    cases same
    cases o with
    | ok _ => exact ih (fun j member => hooks j (List.mem_cons_of_mem _ member)) alike
    | error e => exact .pure ⟨alike, rfl⟩

theorem runs_commandCreated {c c' : NativeCommand} (alike : t.commands c c') :
    t.Runs (fun x x' => t.commands x.1 x'.1 ∧ x'.2 = x.2) (l.commandCreated event c)
      (l.commandCreated event c') := by
  have traced : t.Runs Eq
      (Engine.trace .debug commandTarget
        ("Created DbCommand for '" ++ event.method.verb ++ "' " ++ elapsed)
        (commandFields event ++ []))
      (Engine.trace .debug commandTarget
        ("Created DbCommand for '" ++ event.method.verb ++ "' " ++ elapsed)
        (commandFields event ++ [])) := runs_commandTrace watches may (by simp) (by simp)
  rw [List.append_nil] at traced
  exact traced.andThen fun _ => runs_foldCreated watches may suits.hooks alike

variable {c c' : NativeCommand} (alike : t.commands c c')
include alike

theorem tries_executing {mode : Mode} {around : CommandInterceptor σ → Around σ α}
    {payload : α → Engine σ Payload} (silent : ∀ a s, (payload a s).2 = s)
    (hooks : ∀ i ∈ l.commandInterceptors, t.SuitsAround (around i)) :
    t.Tries Eq (l.executing mode around payload c event)
      (l.executing mode around payload c' event) := by
  unfold Logger.executing
  rw [suits.describe alike, suits.text alike]
  refine Tries.andThen (.lift (runs_commandTrace watches may ?_ ?_)) fun _ => ?_
  · simp [methodField]
  · simp [List.lookup_cons, methodField, sourceField]
  · refine tries_foldHooks (V := Eq) watches (fun i r r' same => ?_) (fun i member r r' same => ?_)
      rfl
    · cases same
      have shown : t.Runs (fun _ _ => True) (r.mapM payload) (r.mapM payload) := by
        refine .of_silent (fun _ _ _ => trivial) ?_ ?_
        all_goals cases r <;> first | exact fun _ => rfl | exact silent _
      exact shown.bind fun _ _ _ => runs_delivery watches may i _ _ _ _ _ _
    · cases same
      exact ((hooks i member).executing alike event r mode).of_eq (sameEnd_refl fun _ => rfl)

theorem tries_executed {mode : Mode} {around : CommandInterceptor σ → Around σ α}
    {payload : α → Engine σ Payload} (silent : ∀ a s, (payload a s).2 = s)
    (hooks : ∀ i ∈ l.commandInterceptors, t.SuitsAround (around i)) (result : α) :
    t.Tries Eq (l.executed mode around payload c event result)
      (l.executed mode around payload c' event result) := by
  unfold Logger.executed
  rw [suits.describe alike, suits.text alike]
  refine Tries.andThen (.lift (runs_commandTrace watches may ?_ ?_)) fun _ => ?_
  · simp [methodField]
  · simp [List.lookup_cons, methodField, sourceField]
  · refine tries_foldHooks (V := Eq) watches (fun i a a' same => ?_) (fun i member a a' same => ?_)
      rfl
    · cases same
      have shown : t.Runs (fun _ _ => True) (payload a) (payload a) :=
        .of_silent (fun _ _ _ => trivial) (silent a) (silent a)
      exact shown.bind fun _ _ _ => runs_delivery watches may i _ _ _ _ _ _
    · cases same
      exact ((hooks i member).executed alike event a mode).of_eq (sameEnd_refl fun _ => rfl)

theorem runs_commandFailed (mode : Mode) (e : Error) :
    t.Runs Eq (l.commandFailed mode c event e) (l.commandFailed mode c' event e) := by
  unfold Logger.commandFailed
  rw [suits.describe alike, suits.text alike]
  refine (runs_commandTrace watches may ?_ ?_).andThen fun _ => runs_forM fun i member => ?_
  · simp [methodField]
  · simp [List.lookup_cons, methodField, errorField]
  · refine (runs_delivery watches may i _ _ _ _ _ _).andThen fun _ => ?_
    exact runs_act watches ((suits.hooks i member).failed mode alike event e)

theorem runs_readerDisposing (mode : Mode) (d : Disposal) :
    t.Runs Eq (l.readerDisposing mode c event d) (l.readerDisposing mode c' event d) := by
  unfold Logger.readerDisposing
  refine (runs_commandTrace watches may ?_ ?_).andThen fun _ => runs_forM fun i member => ?_
  · simp [List.lookup_cons]
  · simp [List.lookup_cons]
  · refine (runs_delivery watches may i _ _ _ _ _ _).andThen fun _ => ?_
    exact runs_act watches ((suits.hooks i member).disposing mode alike event d)

end Raising

end Tandem

end SqlExecution
