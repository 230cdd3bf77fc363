import SqlExecution.Proofs.Twins.Events

/-! Computations that do nothing but what a comparison overlooks: they leave a session that it does
not tell from the one before, and what they end with is known. Events are such computations where
every hook is left at its default. -/

namespace SqlExecution

variable {σ α β γ δ ι : Type}

open Session Trace

namespace Engine

/-- Unless its context is cancelled where that counts, the computation ends with such a value, and
nothing is seen of it. -/
def Idle (b : Blur) (heeds : Prop) (Q : α → Prop) (m : Engine σ α) : Prop :=
  ∀ s : Session σ, (heeds → s.scene.cancelled = none) →
    Q (m s).1 ∧ b.session (m s).2 = b.session s ∧ (m s).2.connections = s.connections

variable {b : Blur} {heeds : Prop} {Q : α → Prop} {Q' : β → Prop} {view : α → γ} {view' : β → δ}

theorem Idle.pure {a : α} (holds : Q a) : Idle b heeds Q (pure a : Engine σ α) :=
  fun _ _ => ⟨holds, rfl, rfl⟩

theorem Idle.bind {m : Engine σ α} {f : α → Engine σ β} (first : Idle b heeds Q m)
    (rest : ∀ a, Q a → Idle b heeds Q' (f a)) : Idle b heeds Q' (m >>= f) := fun s goes => by
  obtain ⟨holds, same, kept⟩ := first s goes
  have scene : (m s).2.scene = s.scene := Blur.scene_eq same
  obtain ⟨holds', same', kept'⟩ := rest _ holds (m s).2 (scene ▸ goes)
  exact ⟨holds', same'.trans same, kept'.trans kept⟩

theorem Idle.map {m : Engine σ α} (f : α → β) (first : Idle b heeds Q m)
    (each : ∀ a, Q a → Q' (f a)) : Idle b heeds Q' (f <$> m) :=
  first.bind (f := fun a => Pure.pure (f a)) fun a holds => .pure (each a holds)

theorem Idle.mono {m : Engine σ α} {P : α → Prop} (first : Idle b heeds Q m)
    (each : ∀ a, Q a → P a) : Idle b heeds P m := fun s goes => (first s goes).imp (each _) id

theorem Idle.of_silent {m : Engine σ α} (silent : ∀ s, (m s).2 = s) :
    Idle b heeds (fun _ => True) m := fun s _ => ⟨trivial, by rw [silent], by rw [silent]⟩

theorem Match.of_idle {m : Engine σ α} {a : α} (reveals : Obeys Reveals m)
    (idle : Idle b heeds (view · = view a) m) : Match b heeds view m (Pure.pure a) where
  reveals := reveals
  agrees {s t} alike calm := by
    obtain ⟨holds, same, kept⟩ := idle s fun heed => (calm heed).first (reveals s)
    exact ⟨holds, same.trans alike.same, fun id => kept ▸ alike.heard id⟩

theorem Match.skip {m : Engine σ α} {f : α → Engine σ β} {n : Engine σ β}
    (reveals : Obeys Reveals m) (idle : Idle b heeds (fun _ => True) m)
    (rest : ∀ a, Match b heeds view' (f a) n) : Match b heeds view' (m >>= f) n where
  reveals := reveals.bind fun a => (rest a).reveals
  agrees {s t} alike calm := by
    have later : Reveals (m s).2 ((m >>= f) s).2 := (rest _).reveals _
    have parts := fun heed => (calm heed).parts (reveals s) later
    obtain ⟨_, same, kept⟩ := idle s fun heed => (parts heed).1.first (reveals s)
    exact (rest _).agrees ⟨same.trans alike.same, fun id => kept ▸ alike.heard id⟩
      fun heed => (parts heed).2

theorem idle_record {e : Entry} (unseen : b.shown? e = none) :
    Idle b heeds (fun _ => True) (record e : Engine σ Unit) :=
  fun s _ => ⟨trivial, Blur.session_noted_of_none unseen s, rfl⟩

section Overlooked

variable (overlooked : b.diagnostics = true)
include overlooked

theorem idle_hook (d : Delivery) :
    Idle b heeds (fun _ => True) (record (.hook d) : Engine σ Unit) :=
  idle_record (Blur.detail_of_overlooked overlooked)

theorem idle_trace (level : TraceLevel) (target message : String)
    (fields : List (String × TraceValue)) :
    Idle b heeds (fun _ => True) (trace level target message fields : Engine σ Unit) := by
  unfold trace
  refine (Idle.of_silent fun _ => rfl).bind fun s _ => ?_
  split
  · exact idle_record (Blur.detail_of_overlooked overlooked)
  · exact .pure trivial

theorem idle_commandId (t : Ticket) :
    Idle b heeds (fun _ => True) (commandId t : Engine σ CommandId) := by
  have unseen : ∀ s : Session σ, ∀ i, (b.session s).commandIds i = none :=
    fun _ _ => Blur.detail_of_overlooked overlooked
  unfold commandId
  refine (Idle.of_silent fun _ => rfl).bind fun s _ => ?_
  split
  · exact .pure trivial
  · have mints : Idle b heeds (fun _ => True) (mintCommand : Engine σ CommandId) := fun s _ => by
      refine ⟨trivial, ?_, rfl⟩
      have uncounted : b.detail 0 (s.nextCommand + 1) = b.detail 0 s.nextCommand := by
        rw [Blur.detail_of_overlooked overlooked, Blur.detail_of_overlooked overlooked]
      change ({ b.session s with nextCommand := b.detail 0 (s.nextCommand + 1) } : Session σ) = _
      rw [uncounted]
      rfl
    refine mints.bind fun minted _ => ?_
    have keeps : Idle b heeds (fun _ => True)
        (modify (·.setCommandId t minted) : Engine σ Unit) := fun s _ => by
      refine ⟨trivial, ?_, rfl⟩
      refine (Blur.session_setCommandId t minted s).trans ?_
      have none : (fun j => if j = t then b.detail Option.none (some minted)
          else (b.session s).commandIds j) = (b.session s).commandIds := by
        funext j
        rw [unseen, Blur.detail_of_overlooked overlooked]
        split <;> rfl
      rw [none]
    exact keeps.bind fun _ _ => .pure trivial

end Overlooked

theorem idle_forM {f : ι → Engine σ Unit} {is : List ι}
    (each : ∀ i ∈ is, Idle b heeds (fun _ => True) (f i)) :
    Idle b heeds (fun _ => True) (is.forM f) := by
  induction is with
  | nil => exact .pure trivial
  | cons i rest ih =>
    have first := each i (List.mem_cons_self ..)
    exact first.bind fun _ _ => ih fun j member => each j (List.mem_cons_of_mem _ member)

theorem act_of_still {a : Act σ α} {x : α} (still : a = fun s => (x, s)) :
    act a = (Pure.pure x : Engine σ α) := by
  rw [still]
  rfl

end Engine

namespace Attempt

/-- The computation does not fail either. -/
def Idle (b : Blur) (heeds : Prop) (Q : α → Prop) (m : Attempt σ α) : Prop :=
  Engine.Idle b heeds (fun o => ∃ a, o = .ok a ∧ Q a) m.observe

variable {b : Blur} {heeds : Prop} {Q : α → Prop} {Q' : β → Prop} {view : α → γ} {view' : β → δ}

theorem Idle.pure {a : α} (holds : Q a) : Idle b heeds Q (pure a : Attempt σ α) :=
  Engine.Idle.pure ⟨a, rfl, holds⟩

theorem Idle.bind {m : Attempt σ α} {f : α → Attempt σ β} (first : Idle b heeds Q m)
    (rest : ∀ a, Q a → Idle b heeds Q' (f a)) : Idle b heeds Q' (m >>= f) := by
  unfold Idle
  rw [observe_bind]
  refine Engine.Idle.bind first fun o ⟨a, ok, holds⟩ => ?_
  rw [ok]
  exact rest a holds

theorem Idle.mono {m : Attempt σ α} {P : α → Prop} (first : Idle b heeds Q m)
    (each : ∀ a, Q a → P a) : Idle b heeds P m :=
  Engine.Idle.mono first fun _ ⟨a, ok, holds⟩ => ⟨a, ok, each a holds⟩

theorem idle_lift {m : Engine σ α} (h : Engine.Idle b heeds Q m) : Idle b heeds Q (lift m) :=
  h.map Except.ok fun a holds => ⟨a, rfl, holds⟩

theorem Match.of_idle {m : Attempt σ α} {a : α} (reveals : Obeys Reveals m)
    (idle : Idle b heeds (view · = view a) m) : Match b heeds view m (Pure.pure a) := by
  refine Engine.Match.of_idle reveals (Engine.Idle.mono idle fun o ⟨a', ok, same⟩ => ?_)
  rw [ok]
  exact congrArg Except.ok same

theorem Match.skip {m : Engine σ α} {f : α → Attempt σ β} {n : Attempt σ β}
    (reveals : Engine.Obeys Reveals m) (idle : Engine.Idle b heeds (fun _ => True) m)
    (rest : ∀ a, Match b heeds view' (f a) n) : Match b heeds view' (lift m >>= f) n :=
  Engine.Match.skip reveals idle rest

theorem Match.idleThen {m : Attempt σ α} {a : α} {f : α → Attempt σ β} {n : Attempt σ β}
    (reveals : Obeys Reveals m) (idle : Idle b heeds (· = a) m) (tails : ∀ x, Obeys Reveals (f x))
    (rest : Match b heeds view' (f a) n) : Match b heeds view' (m >>= f) n where
  reveals := reveals.bind tails
  agrees {s t} alike calm := by
    have later : Reveals (m.observe s).2 ((m >>= f).observe s).2 := Obeys.after tails m s
    obtain ⟨⟨x, ends, known⟩, same, kept⟩ :=
      idle s fun heed => ((calm heed).parts (reveals s) later).1.first (reveals s)
    have reached : m.observe s = (.ok a, (m.observe s).2) := Prod.ext (known ▸ ends) rfl
    have steps : (m >>= f).observe s = (f a).observe (m.observe s).2 := observe_bind_ok reached f
    rw [steps] at later calm ⊢
    exact rest.agrees ⟨same.trans alike.same, fun id => kept ▸ alike.heard id⟩
      fun heed => ((calm heed).parts (reveals s) later).2

theorem idle_trace (overlooked : b.diagnostics = true) (level : TraceLevel)
    (target message : String) (fields : List (String × TraceValue)) :
    Idle b heeds (fun _ => True) (trace level target message fields : Attempt σ Unit) :=
  idle_lift (Engine.idle_trace overlooked _ _ _ _)

theorem idle_checkpoint {mode : Mode} (heed : mode = .async → heeds) :
    Idle b heeds (fun _ => True) (checkpoint mode : Attempt σ Unit) := fun s goes => by
  refine ⟨⟨⟨⟩, ?_, trivial⟩, rfl, rfl⟩
  change mode.checkpoint s.scene.cancelled = .ok ()
  cases mode with
  | blocking => rfl
  | async => rw [goes (heed rfl), Mode.checkpoint_none]

theorem idle_foldHooks {mode : Mode} (heed : mode = .async → heeds) (stops : Bool)
    {deliver : ι → α → Engine σ Unit} {hook : ι → α → Dual σ α} {is : List ι}
    (delivers : ∀ i a, Engine.Idle b heeds (fun _ => True) (deliver i a))
    (still : ∀ i ∈ is, ∀ a, (hook i a).perform mode = fun s => (.ok a, s)) (a : α) :
    Idle b heeds (· = a) (foldHooks mode stops deliver hook is a) := by
  induction is with
  | nil => exact .pure rfl
  | cons i rest ih =>
    have later := ih fun j member => still j (List.mem_cons_of_mem _ member)
    have passes : Idle b heeds (· = a) (ExceptT.mk (Engine.act ((hook i a).perform mode))) := by
      rw [Engine.act_of_still (still i (List.mem_cons_self ..) a)]
      exact .pure rfl
    have call : Idle b heeds (· = a) (do
        lift (deliver i a)
        let next ← ExceptT.mk (Engine.act ((hook i a).perform mode))
        foldHooks mode stops deliver hook rest next) := by
      refine (idle_lift (delivers i a)).bind fun _ _ => passes.bind fun next same => ?_
      rw [same]
      exact later
    unfold foldHooks
    cases stops with
    | false => exact call
    | true => exact (idle_checkpoint heed).bind fun _ _ => call

end Attempt

section Overlooked

variable {b : Blur} {heeds : Prop} (overlooked : b.diagnostics = true)
include overlooked

theorem ExecutionInfo.idle_event (info : ExecutionInfo) :
    Engine.Idle b heeds (fun _ => True) (info.event : Engine σ CommandEvent) :=
  (Engine.idle_commandId overlooked _).bind fun _ _ => .pure trivial

namespace Logger

variable {l : Logger σ} (still : l.Still) {mode : Mode}
include still

theorem idle_commandCreating (event : CommandEvent) :
    Attempt.Idle b heeds (· = .noResult) (l.commandCreating event) := by
  refine (Attempt.idle_trace overlooked _ _ _ _).bind fun _ _ => ?_
  refine Attempt.idle_foldHooks nofun _ (fun _ _ => Engine.idle_hook overlooked _) ?_ _
  intro i member r
  rw [still.command i member]
  rfl

theorem idle_commandCreated (event : CommandEvent) (c : NativeCommand) :
    Engine.Idle b heeds (· = (c, .ok ())) (l.commandCreated event c) := by
  have folds : ∀ is : List (CommandInterceptor σ), (∀ i ∈ is, i ∈ l.commandInterceptors) →
      Engine.Idle b heeds (· = (c, .ok ())) (foldCreated event is c) := fun is => by
    induction is with
    | nil => exact fun _ => .pure rfl
    | cons i rest ih =>
      intro within
      have passes : Engine.act (i.created event c) = (pure (c, .ok ()) : Engine σ _) := by
        rw [still.command i (within i (List.mem_cons_self ..))]
        rfl
      unfold foldCreated
      refine (Engine.idle_hook overlooked _).bind fun _ _ => ?_
      rw [passes]
      exact ih fun j member => within j (List.mem_cons_of_mem _ member)
  exact (Engine.idle_trace overlooked _ _ _ _).bind fun _ _ => folds _ fun _ member => member

section Around

variable {around : CommandInterceptor σ → Around σ α} {payload : α → Engine σ Payload}
  (heed : mode = .async → heeds) (passes : ∀ name, around (.passThrough name) = .passThrough)
  (silent : ∀ a s, (payload a s).2 = s) (c : NativeCommand) (event : CommandEvent)
include heed passes silent

theorem idle_executing :
    Attempt.Idle b heeds (· = .noResult) (l.executing mode around payload c event) := by
  refine (Attempt.idle_trace overlooked _ _ _ _).bind fun _ _ => ?_
  refine Attempt.idle_foldHooks heed _ (fun i r => ?_) (fun i member r => ?_) _
  · have shows : Engine.Idle b heeds (fun _ => True) (r.mapM payload) := by
      cases r with
      | noResult => exact .pure trivial
      | hasResult a => exact (Engine.Idle.of_silent (silent a)).map _ fun _ _ => trivial
    exact shows.bind fun _ _ => Engine.idle_hook overlooked _
  · rw [still.command i member, passes]
    exact Dual.perform_pure r mode

theorem idle_executed (result : α) :
    Attempt.Idle b heeds (· = result) (l.executed mode around payload c event result) := by
  refine (Attempt.idle_trace overlooked _ _ _ _).bind fun _ _ => ?_
  refine Attempt.idle_foldHooks heed _ (fun i a => ?_) (fun i member a => ?_) _
  · exact (Engine.Idle.of_silent (silent a)).bind fun _ _ => Engine.idle_hook overlooked _
  · rw [still.command i member, passes]
    exact Dual.perform_pure a mode

end Around

theorem idle_commandFailed (c : NativeCommand) (event : CommandEvent) (e : Error) :
    Engine.Idle b heeds (fun _ => True) (l.commandFailed mode c event e) := by
  refine (Engine.idle_trace overlooked _ _ _ _).bind fun _ _ => Engine.idle_forM fun i member => ?_
  have passes : Engine.act (i.failed mode c event e) = (pure () : Engine σ Unit) := by
    rw [still.command i member]
    rfl
  rw [passes]
  exact (Engine.idle_hook overlooked _).bind fun _ _ => .pure trivial

theorem idle_readerDisposing (c : NativeCommand) (event : CommandEvent) (d : Disposal) :
    Engine.Idle b heeds (fun _ => True) (l.readerDisposing mode c event d) := by
  refine (Engine.idle_trace overlooked _ _ _ _).bind fun _ _ => Engine.idle_forM fun i member => ?_
  have passes : Engine.act (i.disposing mode c event d) = (pure () : Engine σ Unit) := by
    rw [still.command i member]
    rfl
  rw [passes]
  exact (Engine.idle_hook overlooked _).bind fun _ _ => .pure trivial

theorem idle_transactionStarting (heed : mode = .async → heeds) (event : TransactionEvent) :
    Attempt.Idle b heeds (· = .noResult) (l.transactionStarting mode event) := by
  refine (Attempt.idle_trace overlooked _ _ _ _).bind fun _ _ => ?_
  refine Attempt.idle_foldHooks heed _ (fun _ _ => Engine.idle_hook overlooked _) ?_ _
  intro i member r
  rw [still.transaction i member]
  exact Dual.perform_pure r mode

theorem idle_transactionStarted (heed : mode = .async → heeds) (event : TransactionEvent)
    (t : NativeTransaction) :
    Attempt.Idle b heeds (· = t) (l.transactionStarted mode event t) := by
  refine (Attempt.idle_trace overlooked _ _ _ _).bind fun _ _ => ?_
  refine Attempt.idle_foldHooks heed _ (fun _ _ => Engine.idle_hook overlooked _) ?_ _
  intro i member t
  rw [still.transaction i member]
  exact Dual.perform_pure t mode

end Logger

end Overlooked

end SqlExecution
