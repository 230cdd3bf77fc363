import SqlExecution.Proofs.Twins.Matching

/-! Events in two runs. A logger whose hooks ignore the form of an operation raises the same events
in either form. -/

namespace SqlExecution

variable {σ α β γ ι : Type}

open Session Trace

namespace Blur

variable {b : Blur} {mode mode' : Mode}

theorem field_isAsync (isAsync : Bool) :
    b.field ("is_async", .bool isAsync) = ("is_async", .bool (b.mark isAsync)) := by
  simp [field, traceValue]

theorem eq_of_commandEvent {e e' : CommandEvent} (same : b.commandEvent e = b.commandEvent e') :
    ∃ isAsync, e' = { e with isAsync } ∧ b.mark e.isAsync = b.mark isAsync := by
  obtain ⟨context, connection, id, method, source, isAsync⟩ := e
  obtain ⟨context', connection', id', method', source', isAsync'⟩ := e'
  simp only [commandEvent, CommandEvent.mk.injEq] at same
  obtain ⟨rfl, rfl, rfl, rfl, rfl, marks⟩ := same
  exact ⟨isAsync', rfl, marks⟩

theorem eq_of_transactionEvent {e e' : TransactionEvent}
    (same : b.transactionEvent e = b.transactionEvent e') :
    ∃ isAsync, e' = { e with isAsync } ∧ b.mark e.isAsync = b.mark isAsync := by
  obtain ⟨connection, id, isolation, isAsync⟩ := e
  obtain ⟨connection', id', isolation', isAsync'⟩ := e'
  simp only [transactionEvent, TransactionEvent.mk.injEq] at same
  obtain ⟨rfl, rfl, rfl, marks⟩ := same
  exact ⟨isAsync', rfl, marks⟩

theorem hook_perform {d : Bool → Dual σ α} (x : Bool)
    (even : b.forms = true → ∀ y, d y = d x ∧ (d x).Even) (same : b.mode mode = b.mode mode')
    {x' : Bool} (marks : b.mark x = b.mark x') : (d x).perform mode = (d x').perform mode' := by
  cases overlooked : b.forms with
  | false =>
    have flags : x = x' := by simpa [mark, overlooked] using marks
    have modes : mode = mode' := by simpa [Blur.mode, overlooked] using same
    rw [flags, modes]
  | true =>
    obtain ⟨ignores, lifted⟩ := even overlooked x'
    have both : ∀ m, (d x).perform m = (d x).perform .blocking := fun m => by
      cases m with
      | blocking => rfl
      | async => exact lifted
    rw [ignores, both mode, both mode']

theorem watcher_eq {α : Type} {f : Mode → Bool → α} (x : Bool)
    (even : b.forms = true → ∀ m y, f m y = f .blocking x) (same : b.mode mode = b.mode mode')
    {x' : Bool} (marks : b.mark x = b.mark x') : f mode x = f mode' x' := by
  cases overlooked : b.forms with
  | false =>
    have flags : x = x' := by simpa [mark, overlooked] using marks
    have modes : mode = mode' := by simpa [Blur.mode, overlooked] using same
    rw [flags, modes]
  | true => rw [even overlooked mode x, even overlooked mode' x']

theorem hook_entry {d d' : Delivery} (same : b.delivery d = b.delivery d') :
    b.shown? (.hook d) = b.shown? (.hook d') := by
  simp only [shown?, same]

end Blur

namespace Engine

variable {b : Blur} {heeds : Prop}

theorem match_forM {f g : ι → Engine σ Unit} {is : List ι}
    (each : ∀ i ∈ is, Match b heeds id (f i) (g i)) : Match b heeds id (is.forM f) (is.forM g) := by
  induction is with
  | nil => exact .pure rfl
  | cons i rest ih =>
    have first := each i (List.mem_cons_self ..)
    exact first.andThen fun _ => ih fun j member => each j (List.mem_cons_of_mem _ member)

section Shown

variable (shown : b.diagnostics = false)
include shown

theorem match_mintCommand : Match b heeds id (mintCommand : Engine σ CommandId) mintCommand where
  reveals := obeys_mintCommand
  agrees {s t} alike _ := by
    have next : s.nextCommand = t.nextCommand := Blur.nextCommand_eq alike.same shown
    refine ⟨congrArg CommandId.mk next, ?_, alike.heard⟩
    change ({ b.session s with nextCommand := b.detail 0 (s.nextCommand + 1) } : Session σ) =
      { b.session t with nextCommand := b.detail 0 (t.nextCommand + 1) }
    rw [alike.same, next]

theorem match_commandId (t : Ticket) :
    Match b heeds id (commandId t : Engine σ CommandId) (commandId t) := by
  unfold commandId
  refine match_get.bind fun s s' same => ?_
  rw [Blur.commandIds_eq same shown t]
  cases s'.commandIds t with
  | some minted => exact .pure rfl
  | none =>
    refine (match_mintCommand shown).andThen fun minted => ?_
    exact (match_setCommandId t minted).andThen fun _ => .pure rfl

end Shown

end Engine

theorem Attempt.match_foldHooks {b : Blur} {heeds : Prop} {mode mode' : Mode}
    (forms : b.Forms heeds mode mode') (stops : Bool) {deliver deliver' : ι → α → Engine σ Unit}
    {hook hook' : ι → α → Dual σ α} {is : List ι}
    (each : ∀ i ∈ is, ∀ a, Engine.Match b heeds id
      (do deliver i a; Engine.act ((hook i a).perform mode))
      (do deliver' i a; Engine.act ((hook' i a).perform mode'))) (a : α) :
    Attempt.Match b heeds id (foldHooks mode stops deliver hook is a)
      (foldHooks mode' stops deliver' hook' is a) := by
  induction is generalizing a with
  | nil => exact .pure rfl
  | cons i rest ih =>
    have later := ih fun j member => each j (List.mem_cons_of_mem _ member)
    have called : Attempt.Match b heeds id
        (ExceptT.mk (do deliver i a; Engine.act ((hook i a).perform mode)))
        (ExceptT.mk (do deliver' i a; Engine.act ((hook' i a).perform mode'))) :=
      .ofSeen (each i (List.mem_cons_self ..) a)
    have call := called.andThen later
    unfold foldHooks
    cases stops with
    | false => exact call
    | true => exact (match_checkpoint forms).andThen fun _ => call

theorem ExecutionInfo.match_event {b : Blur} {heeds : Prop} (shown : b.diagnostics = false)
    {info info' : ExecutionInfo} (same : b.info info = b.info info') :
    Engine.Match b heeds b.commandEvent (info.event : Engine σ CommandEvent) info'.event := by
  obtain ⟨ticket, context, connection, method, source, mode⟩ := info
  obtain ⟨ticket', context', connection', method', source', mode'⟩ := info'
  simp only [Blur.info, ExecutionInfo.mk.injEq] at same
  obtain ⟨rfl, rfl, rfl, rfl, rfl, modes⟩ := same
  refine (Engine.match_commandId shown ticket).andThen fun minted => .pure ?_
  simp only [Blur.commandEvent, Blur.mark_isAsync modes]

theorem Interception.match_mapM {b : Blur} {heeds : Prop} {payload : α → Engine σ Payload}
    (each : ∀ a, Engine.Match b heeds id (payload a) (payload a)) (i : Interception α) :
    Engine.Match b heeds id (i.mapM payload) (i.mapM payload) := by
  cases i with
  | noResult => exact .pure rfl
  | hasResult a => exact (each a).map fun _ _ same => congrArg hasResult same

namespace Logger

variable {b : Blur} {heeds : Prop} {l : Logger σ}

section Even

variable (even : b.forms = true → l.Even) {mode mode' : Mode}

section Commands

variable {event event' : CommandEvent} (same : b.commandEvent event = b.commandEvent event')

theorem delivery_entry (modes : b.mode mode = b.mode mode')
    (same : b.commandEvent event = b.commandEvent event') (i : CommandInterceptor σ) (hook : Hook)
    (command : Option NativeCommand) (input : HookInput) :
    b.shown? (.hook ⟨i.name, i.coverage, hook, mode, .command event command, input⟩) =
      b.shown? (.hook ⟨i.name, i.coverage, hook, mode', .command event' command, input⟩) :=
  Blur.hook_entry (by simp only [Blur.delivery, Blur.subject, modes, same])

include even same

theorem match_commandCreating :
    Attempt.Match b heeds id (l.commandCreating event) (l.commandCreating event') := by
  obtain ⟨isAsync, rfl, marks⟩ := Blur.eq_of_commandEvent same
  refine (Attempt.match_trace _ _ _ rfl).andThen fun _ => ?_
  refine Attempt.match_foldHooks Blur.forms_blocking _ (fun i member r => ?_) _
  refine Engine.match_record_act (delivery_entry rfl same i _ _ _) ?_
  refine (Blur.hook_perform (d := fun x => .ofBlocking (i.creating { event with isAsync := x } r))
    event.isAsync (fun overlooked y => ?_) (rfl : b.mode .blocking = _) marks :)
  · have ignores := ((even overlooked).command i member).creating event r y
    exact ⟨congrArg Dual.ofBlocking ignores, rfl⟩

theorem match_foldCreated {is : List (CommandInterceptor σ)}
    (within : ∀ i ∈ is, i ∈ l.commandInterceptors) (c : NativeCommand) :
    Engine.Match b heeds id (foldCreated event is c) (foldCreated event' is c) := by
  induction is generalizing c with
  | nil => exact .pure rfl
  | cons i rest ih =>
    have later := ih fun j member => within j (List.mem_cons_of_mem _ member)
    have acts : i.created event c = i.created event' c := by
      obtain ⟨isAsync, rfl, marks⟩ := Blur.eq_of_commandEvent same
      exact Blur.watcher_eq (f := fun _ x => i.created { event with isAsync := x } c) event.isAsync
        (fun overlooked _ y =>
          ((even overlooked).command i (within i (List.mem_cons_self ..))).created event c y)
        (rfl : b.mode .blocking = b.mode .blocking) marks
    refine Engine.match_record_act_bind (delivery_entry rfl same i _ _ _) acts fun x => ?_
    obtain ⟨c', _ | _⟩ := x
    · exact .pure rfl
    · exact later c'

theorem match_commandCreated (c : NativeCommand) :
    Engine.Match b heeds id (l.commandCreated event c) (l.commandCreated event' c) := by
  have created : Engine.Match b heeds id (foldCreated event l.commandInterceptors c)
      (foldCreated event' l.commandInterceptors c) :=
    match_foldCreated even same (fun _ member => member) c
  obtain ⟨isAsync, rfl, marks⟩ := Blur.eq_of_commandEvent same
  exact (Engine.match_trace _ _ _ rfl).andThen fun _ => created

section Executing

variable {around : CommandInterceptor σ → Around σ α} {payload : α → Engine σ Payload}
  (forms : b.Forms heeds mode mode')
  (lifted : b.forms = true → ∀ i ∈ l.commandInterceptors, (around i).Even)
  (shows : ∀ a, Engine.Match b heeds id (payload a) (payload a)) (c : NativeCommand)
include forms lifted shows

omit even in
theorem match_executing :
    Attempt.Match b heeds id (l.executing mode around payload c event)
      (l.executing mode' around payload c event') := by
  obtain ⟨isAsync, rfl, marks⟩ := Blur.eq_of_commandEvent same
  refine (Attempt.match_trace _ _ _ ?_).andThen fun _ => ?_
  · simp only [List.map_append, List.map_cons, Blur.field_isAsync, marks]
    rfl
  · refine Attempt.match_foldHooks forms _ (fun i member r => ?_) _
    rw [bind_assoc, bind_assoc]
    refine (r.match_mapM shows).andThen fun p => ?_
    refine Engine.match_record_act (delivery_entry forms.same same i _ _ _) ?_
    exact Blur.hook_perform (d := fun x => (around i).executing c { event with isAsync := x } r)
      event.isAsync (fun overlooked y =>
        (lifted overlooked i member).executing c event r y)
      forms.same marks

omit even in
theorem match_executed (result : α) :
    Attempt.Match b heeds id (l.executed mode around payload c event result)
      (l.executed mode' around payload c event' result) := by
  obtain ⟨isAsync, rfl, marks⟩ := Blur.eq_of_commandEvent same
  refine (Attempt.match_trace _ _ _ rfl).andThen fun _ => ?_
  refine Attempt.match_foldHooks forms _ (fun i member a => ?_) _
  rw [bind_assoc, bind_assoc]
  refine (shows a).andThen fun p => ?_
  refine Engine.match_record_act (delivery_entry forms.same same i _ _ _) ?_
  exact Blur.hook_perform (d := fun x => (around i).executed c { event with isAsync := x } a)
    event.isAsync (fun overlooked y =>
      (lifted overlooked i member).executed c event a y)
    forms.same marks

end Executing

theorem match_commandFailed (modes : b.mode mode = b.mode mode') (c : NativeCommand) (e : Error) :
    Engine.Match b heeds id (l.commandFailed mode c event e)
      (l.commandFailed mode' c event' e) := by
  obtain ⟨isAsync, rfl, marks⟩ := Blur.eq_of_commandEvent same
  refine (Engine.match_trace _ _ _ rfl).andThen fun _ => Engine.match_forM fun i member => ?_
  refine Engine.match_record_act (delivery_entry modes same i _ _ _) ?_
  exact Blur.watcher_eq (f := fun m x => i.failed m c { event with isAsync := x } e) event.isAsync
    (fun overlooked m y => ((even overlooked).command i member).failed m c event e y) modes marks

theorem match_readerDisposing (modes : b.mode mode = b.mode mode') (c : NativeCommand)
    (d : Disposal) :
    Engine.Match b heeds id (l.readerDisposing mode c event d)
      (l.readerDisposing mode' c event' d) := by
  obtain ⟨isAsync, rfl, marks⟩ := Blur.eq_of_commandEvent same
  refine (Engine.match_trace _ _ _ rfl).andThen fun _ => Engine.match_forM fun i member => ?_
  refine Engine.match_record_act (delivery_entry modes same i _ _ _) ?_
  exact Blur.watcher_eq (f := fun m x => i.disposing m c { event with isAsync := x } d)
    event.isAsync (fun overlooked m y =>
      ((even overlooked).command i member).disposing m c event d y) modes marks

end Commands

section Transactions

variable {event event' : TransactionEvent}
  (same : b.transactionEvent event = b.transactionEvent event')

theorem transactionDelivery_entry (modes : b.mode mode = b.mode mode')
    (same : b.transactionEvent event = b.transactionEvent event') (i : TransactionInterceptor σ)
    (hook : Hook) (input : HookInput) :
    b.shown? (.hook ⟨i.name, i.coverage, hook, mode, .transaction event, input⟩) =
      b.shown? (.hook ⟨i.name, i.coverage, hook, mode', .transaction event', input⟩) :=
  Blur.hook_entry (by simp only [Blur.delivery, Blur.subject, modes, same])

variable (forms : b.Forms heeds mode mode')
include even same forms

theorem match_transactionStarting :
    Attempt.Match b heeds id (l.transactionStarting mode event)
      (l.transactionStarting mode' event') := by
  obtain ⟨isAsync, rfl, marks⟩ := Blur.eq_of_transactionEvent same
  refine (Attempt.match_trace _ _ _ rfl).andThen fun _ => ?_
  refine Attempt.match_foldHooks forms _ (fun i member r => ?_) _
  refine Engine.match_record_act (transactionDelivery_entry forms.same same i _ _) ?_
  exact Blur.hook_perform (d := fun x => i.starting { event with isAsync := x } r) event.isAsync
    (fun overlooked y => ((even overlooked).transaction i member).starting event r y)
    forms.same marks

theorem match_transactionStarted (t : NativeTransaction) :
    Attempt.Match b heeds id (l.transactionStarted mode event t)
      (l.transactionStarted mode' event' t) := by
  obtain ⟨isAsync, rfl, marks⟩ := Blur.eq_of_transactionEvent same
  refine (Attempt.match_trace _ _ _ rfl).andThen fun _ => ?_
  refine Attempt.match_foldHooks forms _ (fun i member t => ?_) _
  refine Engine.match_record_act (transactionDelivery_entry forms.same same i _ _) ?_
  exact Blur.hook_perform (d := fun x => i.started { event with isAsync := x } t) event.isAsync
    (fun overlooked y => ((even overlooked).transaction i member).started event t y)
    forms.same marks

end Transactions

end Even

/-! Even a comparison that overlooks nothing keeps track of the scene. -/

section Reveals

variable (l : Logger σ)

theorem reveals_commandCreating (event : CommandEvent) :
    Attempt.Obeys Reveals (l.commandCreating event) :=
  have both : Attempt.Match .sharp True id (l.commandCreating event) (l.commandCreating event) :=
    match_commandCreating (b := .sharp) nofun rfl
  both.reveals

theorem reveals_commandCreated (event : CommandEvent) (c : NativeCommand) :
    Engine.Obeys Reveals (l.commandCreated event c) :=
  have both : Engine.Match .sharp True id (l.commandCreated event c) (l.commandCreated event c) :=
    match_commandCreated (b := .sharp) nofun rfl c
  both.reveals

theorem reveals_commandFailed (mode : Mode) (c : NativeCommand) (event : CommandEvent) (e : Error) :
    Engine.Obeys Reveals (l.commandFailed mode c event e) :=
  have both : Engine.Match .sharp True id (l.commandFailed mode c event e)
      (l.commandFailed mode c event e) := match_commandFailed (b := .sharp) nofun rfl rfl c e
  both.reveals

theorem reveals_readerDisposing (mode : Mode) (c : NativeCommand) (event : CommandEvent)
    (d : Disposal) : Engine.Obeys Reveals (l.readerDisposing mode c event d) :=
  have both : Engine.Match .sharp True id (l.readerDisposing mode c event d)
      (l.readerDisposing mode c event d) := match_readerDisposing (b := .sharp) nofun rfl rfl c d
  both.reveals

theorem reveals_executing (mode : Mode) {around : CommandInterceptor σ → Around σ α}
    {payload : α → Engine σ Payload}
    (shows : ∀ a, Engine.Match .sharp True id (payload a) (payload a)) (c : NativeCommand)
    (event : CommandEvent) : Attempt.Obeys Reveals (l.executing mode around payload c event) :=
  (match_executing (b := .sharp) rfl (Blur.sharp_forms mode) nofun shows c).reveals

theorem reveals_transactionStarting (mode : Mode) (event : TransactionEvent) :
    Attempt.Obeys Reveals (l.transactionStarting mode event) :=
  (match_transactionStarting (b := .sharp) nofun rfl (Blur.sharp_forms mode)).reveals

theorem reveals_transactionStarted (mode : Mode) (event : TransactionEvent)
    (t : NativeTransaction) : Attempt.Obeys Reveals (l.transactionStarted mode event t) :=
  (match_transactionStarted (b := .sharp) nofun rfl (Blur.sharp_forms mode) t).reveals

theorem reveals_executed (mode : Mode) {around : CommandInterceptor σ → Around σ α}
    {payload : α → Engine σ Payload}
    (shows : ∀ a, Engine.Match .sharp True id (payload a) (payload a)) (c : NativeCommand)
    (event : CommandEvent) (result : α) :
    Attempt.Obeys Reveals (l.executed mode around payload c event result) :=
  (match_executed (b := .sharp) rfl (Blur.sharp_forms mode) nofun shows c result).reveals

end Reveals

end Logger

end SqlExecution
