import SqlExecution.Proofs.Laws.Basic

/-! Raising an event obeys a law under which the hooks may be called and may do what they do. -/

namespace SqlExecution

variable {σ α ι : Type}

open Session

/-- Every hook does to the scene only what is allowed. -/
structure Around.EachHook (P : (Scene σ → Scene σ) → Prop) (a : Around σ α) : Prop where
  executing (c : NativeCommand) (event : CommandEvent) (r : Interception α) (mode : Mode) :
    P fun s => ((a.executing c event r).perform mode s).2
  executed (c : NativeCommand) (event : CommandEvent) (r : α) (mode : Mode) :
    P fun s => ((a.executed c event r).perform mode s).2

structure CommandInterceptor.EachHook (P : (Scene σ → Scene σ) → Prop)
    (i : CommandInterceptor σ) : Prop where
  creating (event : CommandEvent) (r : Interception NativeCommand) :
    P fun s => (i.creating event r s).2
  created (event : CommandEvent) (c : NativeCommand) : P fun s => (i.created event c s).2
  nonQuery : i.nonQuery.EachHook P
  scalar : i.scalar.EachHook P
  reader : i.reader.EachHook P
  failed (mode : Mode) (c : NativeCommand) (event : CommandEvent) (e : Error) :
    P fun s => (i.failed mode c event e s).2
  disposing (mode : Mode) (c : NativeCommand) (event : CommandEvent) (d : Disposal) :
    P fun s => (i.disposing mode c event d s).2

structure TransactionInterceptor.EachHook (P : (Scene σ → Scene σ) → Prop)
    (i : TransactionInterceptor σ) : Prop where
  starting (event : TransactionEvent) (r : Interception NativeTransaction) (mode : Mode) :
    P fun s => ((i.starting event r).perform mode s).2
  started (event : TransactionEvent) (t : NativeTransaction) (mode : Mode) :
    P fun s => ((i.started event t).perform mode s).2

structure Logger.EachHook (P : (Scene σ → Scene σ) → Prop) (l : Logger σ) : Prop where
  command : ∀ i ∈ l.commandInterceptors, i.EachHook P
  transaction : ∀ i ∈ l.transactionInterceptors, i.EachHook P

variable {P : (Scene σ → Scene σ) → Prop} {R : Session σ → Session σ → Prop}

section Mono

variable {Q : (Scene σ → Scene σ) → Prop} (weaker : ∀ f, P f → Q f)
include weaker

theorem Around.EachHook.mono {a : Around σ α} (h : a.EachHook P) : a.EachHook Q :=
  ⟨fun c event r mode => weaker _ (h.executing c event r mode),
    fun c event r mode => weaker _ (h.executed c event r mode)⟩

theorem CommandInterceptor.EachHook.mono {i : CommandInterceptor σ} (h : i.EachHook P) :
    i.EachHook Q where
  creating event r := weaker _ (h.creating event r)
  created event c := weaker _ (h.created event c)
  nonQuery := h.nonQuery.mono weaker
  scalar := h.scalar.mono weaker
  reader := h.reader.mono weaker
  failed mode c event e := weaker _ (h.failed mode c event e)
  disposing mode c event d := weaker _ (h.disposing mode c event d)

theorem Logger.EachHook.mono {l : Logger σ} (h : l.EachHook P) : l.EachHook Q where
  command i member := (h.command i member).mono weaker
  transaction i member :=
    ⟨fun event r mode => weaker _ ((h.transaction i member).starting event r mode),
      fun event t mode => weaker _ ((h.transaction i member).started event t mode)⟩

end Mono

theorem Around.eachHook_of_forall (all : ∀ f, P f) (a : Around σ α) : a.EachHook P :=
  ⟨fun _ _ _ _ => all _, fun _ _ _ _ => all _⟩

theorem Logger.eachHook_of_forall (all : ∀ f, P f) (l : Logger σ) : l.EachHook P where
  command i _ := ⟨fun _ _ => all _, fun _ _ => all _, i.nonQuery.eachHook_of_forall all,
    i.scalar.eachHook_of_forall all, i.reader.eachHook_of_forall all, fun _ _ _ _ => all _,
    fun _ _ _ _ => all _⟩
  transaction _ _ := ⟨fun _ _ _ => all _, fun _ _ _ => all _⟩

namespace Logger

theorem obeys_delivery {hook : Hook} (hears : Hears R hook) (i : CommandInterceptor σ)
    (mode : Mode) (event : CommandEvent) (command : Option NativeCommand) (input : HookInput) :
    Engine.Obeys R (delivery i hook mode event command input) :=
  Engine.obeys_record (hears _ rfl)

theorem obeys_transactionDelivery {hook : Hook} (hears : Hears R hook)
    (i : TransactionInterceptor σ) (mode : Mode) (event : TransactionEvent) (input : HookInput) :
    Engine.Obeys R (transactionDelivery i hook mode event input) :=
  Engine.obeys_record (hears _ rfl)

theorem obeys_raised {gate : Logger σ → Option TraceLevel → Bool} {logger : Option (Logger σ)}
    {f : Option (Logger σ) → Engine σ α} (hooks : ∀ l ∈ logger, l.EachHook P)
    (rest : ∀ raised : Option (Logger σ), (∀ l ∈ raised, l.EachHook P) →
      Engine.Obeys R (f raised)) :
    Engine.Obeys R (Engine.raising gate logger >>= f) := by
  intro s
  have same : Engine.raising gate logger s = (logger.filter (gate · s.traceLimit), s) := rfl
  rw [Engine.bind_apply, same]
  exact rest _ (fun l asked => hooks l (Option.mem_filter_iff.1 asked).1) s

end Logger

theorem Attempt.obeys_raised {gate : Logger σ → Option TraceLevel → Bool}
    {logger : Option (Logger σ)} {f : Option (Logger σ) → Attempt σ α}
    (hooks : ∀ l ∈ logger, l.EachHook P)
    (rest : ∀ raised : Option (Logger σ), (∀ l ∈ raised, l.EachHook P) →
      Attempt.Obeys R (f raised)) :
    Attempt.Obeys R (Attempt.lift (Engine.raising gate logger) >>= f) :=
  Logger.obeys_raised (f := fun raised => (f raised).observe) hooks rest

variable [ReportingLaw R]

theorem ExecutionInfo.obeys_event (info : ExecutionInfo) :
    Engine.Obeys R (info.event : Engine σ CommandEvent) :=
  (Engine.obeys_commandId _).bind fun _ => .pure _

theorem Interception.obeys_mapM {payload : α → Engine σ Payload}
    (silent : ∀ a s, (payload a s).2 = s) (i : Interception α) :
    Engine.Obeys R (i.mapM payload) := by
  cases i with
  | noResult => exact .pure _
  | hasResult a => exact (Engine.obeys_of_silent (silent a)).map _

namespace Logger

variable {l : Logger σ}

theorem obeys_commandCreating (hears : Hears R .commandCreating) (hooks : l.EachHook (Lets R))
    (event : CommandEvent) : Attempt.Obeys R (l.commandCreating event) := by
  refine (Attempt.obeys_remark _ _ _ _).bind fun _ => ?_
  refine Attempt.obeys_foldHooks _ (fun i r => obeys_delivery hears i _ _ _ _) ?_ _
  intro i member r
  simpa [Dual.perform_ofBlocking] using (hooks.command i member).creating event r

theorem obeys_foldCreated (hears : Hears R .commandCreated) (event : CommandEvent)
    {is : List (CommandInterceptor σ)} (hooks : ∀ i ∈ is, i.EachHook (Lets R))
    (c : NativeCommand) : Engine.Obeys R (foldCreated event is c) := by
  induction is generalizing c with
  | nil => exact .pure _
  | cons i rest ih =>
    have first := (hooks i (List.mem_cons_self ..)).created event c
    unfold foldCreated
    refine (obeys_delivery hears i _ _ _ _).bind fun _ => (Engine.obeys_act first).bind fun o => ?_
    split
    · exact ih (fun j member => hooks j (List.mem_cons_of_mem _ member)) _
    · exact .pure _

theorem obeys_commandCreated (hears : Hears R .commandCreated) (hooks : l.EachHook (Lets R))
    (event : CommandEvent) (c : NativeCommand) : Engine.Obeys R (l.commandCreated event c) :=
  (Engine.obeys_remark _ _ _ _).bind fun _ => obeys_foldCreated hears event hooks.command c

theorem obeys_executing {mode : Mode} {around : CommandInterceptor σ → Around σ α}
    {payload : α → Engine σ Payload} {event : CommandEvent}
    (hears : Hears R (.executing event.method)) (silent : ∀ a s, (payload a s).2 = s)
    (hooks : ∀ i ∈ l.commandInterceptors, (around i).EachHook (Lets R)) (c : NativeCommand) :
    Attempt.Obeys R (l.executing mode around payload c event) := by
  refine (Attempt.obeys_remark _ _ _ _).bind fun _ => ?_
  refine Attempt.obeys_foldHooks _ (fun i r => ?_) (fun i member r => ?_) _
  · exact (r.obeys_mapM silent).bind fun _ => obeys_delivery hears i _ _ _ _
  · exact (hooks i member).executing c event r mode

theorem obeys_executed {mode : Mode} {around : CommandInterceptor σ → Around σ α}
    {payload : α → Engine σ Payload} {event : CommandEvent}
    (hears : Hears R (.executed event.method)) (silent : ∀ a s, (payload a s).2 = s)
    (hooks : ∀ i ∈ l.commandInterceptors, (around i).EachHook (Lets R)) (c : NativeCommand)
    (result : α) : Attempt.Obeys R (l.executed mode around payload c event result) := by
  refine (Attempt.obeys_remark _ _ _ _).bind fun _ => ?_
  refine Attempt.obeys_foldHooks _ (fun i a => ?_) (fun i member a => ?_) _
  · exact (Engine.obeys_of_silent (silent a)).bind fun _ => obeys_delivery hears i _ _ _ _
  · exact (hooks i member).executed c event a mode

omit [ReportingLaw R] in
theorem obeys_commandFailed [Law R] (hears : Hears R .commandFailed) (hooks : l.EachHook (Lets R))
    (mode : Mode) (c : NativeCommand) (event : CommandEvent) (e : Error) :
    Engine.Obeys R (l.commandFailed mode c event e) := by
  refine (Engine.obeys_trace _ _ _ _).bind fun _ => Engine.obeys_forM fun i member => ?_
  have acts := (hooks.command i member).failed mode c event e
  exact (obeys_delivery hears i _ _ _ _).bind fun _ => Engine.obeys_act acts

theorem obeys_readerDisposing (hears : Hears R .readerDisposing) (hooks : l.EachHook (Lets R))
    (mode : Mode) (c : NativeCommand) (event : CommandEvent) (d : Disposal) :
    Engine.Obeys R (l.readerDisposing mode c event d) := by
  refine (Engine.obeys_remark _ _ _ _).bind fun _ => Engine.obeys_forM fun i member => ?_
  have acts := (hooks.command i member).disposing mode c event d
  exact (obeys_delivery hears i _ _ _ _).bind fun _ => Engine.obeys_act acts

theorem obeys_transactionStarting (hears : Hears R .transactionStarting)
    (hooks : l.EachHook (Lets R)) (mode : Mode) (event : TransactionEvent) :
    Attempt.Obeys R (l.transactionStarting mode event) := by
  refine (Attempt.obeys_remark _ _ _ _).bind fun _ => ?_
  refine Attempt.obeys_foldHooks _ (fun i r => obeys_transactionDelivery hears i _ _ _) ?_ _
  exact fun i member r => (hooks.transaction i member).starting event r mode

theorem obeys_transactionStarted (hears : Hears R .transactionStarted)
    (hooks : l.EachHook (Lets R)) (mode : Mode) (event : TransactionEvent)
    (t : NativeTransaction) : Attempt.Obeys R (l.transactionStarted mode event t) := by
  refine (Attempt.obeys_remark _ _ _ _).bind fun _ => ?_
  refine Attempt.obeys_foldHooks _ (fun i t => obeys_transactionDelivery hears i _ _ _) ?_ _
  exact fun i member t => (hooks.transaction i member).started event t mode

end Logger

end SqlExecution
