import SqlExecution.Proofs.Laws.Hooks
import SqlExecution.Proofs.Twins.Blur

/-! Computations that match. From sessions that are alike they end alike, provided that the first
does not find its context cancelled where that counts. Everything that a computation does between
two calls leaves the scene as it is, so that the journal and the last scene show whether the context
was ever cancelled. -/

namespace SqlExecution

variable {σ α β γ δ ι : Type}

open Session

namespace Session

/-- The journal was added to, and if the context was cancelled in the beginning, what was added or
the last scene shows it. -/
def Reveals (s t : Session σ) : Prop :=
  ∃ ms, t.journal = s.journal ++ ms ∧
    ((∀ m ∈ ms, m.scene.cancelled = none) → t.scene.cancelled = none → s.scene.cancelled = none)

/-- From one moment to the other the context was not found cancelled, and it is not cancelled. -/
def Calm (s t : Session σ) : Prop :=
  (∀ m ∈ t.journal.drop s.journal.length, m.scene.cancelled = none) ∧ t.scene.cancelled = none

instance (s t : Session σ) : Decidable (Calm s t) := inferInstanceAs (Decidable (_ ∧ _))

variable {s t u : Session σ}

theorem Reveals.trans (first : Reveals s t) (second : Reveals t u) : Reveals s u := by
  obtain ⟨ms, journal, back⟩ := first
  obtain ⟨more, journal', back'⟩ := second
  refine ⟨ms ++ more, by rw [journal', journal, List.append_assoc], fun none last => ?_⟩
  obtain ⟨early, late⟩ := List.forall_mem_append.1 none
  exact back early (back' late last)

theorem reveals_of_scene_eq (journal : t.journal = s.journal) (scene : t.scene = s.scene) :
    Reveals s t := ⟨[], by rw [journal, List.append_nil], fun _ last => scene ▸ last⟩

theorem reveals_noted (e : Entry) (s : Session σ) : Reveals s (s.noted e) :=
  ⟨[⟨s.scene, e⟩], rfl, fun none _ => none _ (List.mem_singleton.2 rfl)⟩

theorem reveals_noted_moved (e : Entry) (f : Scene σ → Scene σ) (s : Session σ) :
    Reveals s ((s.noted e).moved f) :=
  ⟨[⟨s.scene, e⟩], rfl, fun none _ => none _ (List.mem_singleton.2 rfl)⟩

instance : Law (Reveals : Session σ → Session σ → Prop) where
  trans := Reveals.trans
  unseen journal scene _ _ := reveals_of_scene_eq journal scene
  traced record := reveals_noted (.trace record)

theorem Calm.first (calm : Calm s t) (reveals : Reveals s t) : s.scene.cancelled = none := by
  -- Whatever happens to the scene right after something was noted, the note has the scene before.
  obtain ⟨none, last⟩ := calm
  obtain ⟨ms, journal, back⟩ := reveals
  rw [journal, List.drop_left] at none
  exact back none last

theorem Calm.parts (calm : Calm s u) (first : Reveals s t) (second : Reveals t u) :
    Calm s t ∧ Calm t u := by
  obtain ⟨none, last⟩ := calm
  obtain ⟨early, journal, _⟩ := first
  obtain ⟨late, journal', back⟩ := second
  rw [journal', journal, List.append_assoc, List.drop_left] at none
  obtain ⟨before, after⟩ := List.forall_mem_append.1 none
  refine ⟨⟨?_, back after last⟩, ?_, last⟩
  · rw [journal, List.drop_left]
    exact before
  · rw [journal', List.drop_left]
    exact after

end Session

namespace Blur

variable (b : Blur)

/-- Two sessions that a comparison does not tell apart, the second without the loggers that are
overlooked. -/
structure Alike (s t : Session σ) : Prop where
  same : b.session s = b.session t
  heard (id : ConnectionId) : b.Heard (s.connections id).logger (t.connections id).logger

/-- Two forms of an operation that a comparison does not tell apart. If one of them is asynchronous,
cancellation is heeded. -/
structure Forms (heeds : Prop) (mode mode' : Mode) : Prop where
  same : b.mode mode = b.mode mode'
  heeds : mode = .async ∨ mode' = .async → heeds

variable {b : Blur} {s t : Session σ}

theorem forms_blocking {heeds : Prop} : b.Forms heeds .blocking .blocking :=
  ⟨rfl, fun asynchronous => by cases asynchronous <;> contradiction⟩

theorem sharp_forms (mode : Mode) : sharp.Forms True mode mode := ⟨rfl, fun _ => trivial⟩

theorem Forms.perform {heeds : Prop} {mode mode' : Mode} (forms : b.Forms heeds mode mode')
    {d : Dual σ α} (even : b.forms = true → d.Even) : d.perform mode = d.perform mode' := by
  have same := forms.same
  unfold Blur.mode at same
  cases overlooked : b.forms with
  | false =>
    rw [overlooked] at same
    rw [show mode = mode' from same]
  | true =>
    have both : ∀ m, d.perform m = d.perform .blocking := fun m => by
      cases m with
      | blocking => rfl
      | async => exact even overlooked
    rw [both mode, both mode']

section Views

variable (same : b.session s = b.session t)
include same

theorem scene_eq : s.scene = t.scene := (congrArg Session.scene same :)

theorem ticket_eq : s.nextTicket = t.nextTicket := (congrArg Session.nextTicket same :)

theorem serial_eq : s.nextSerial = t.nextSerial := (congrArg Session.nextSerial same :)

theorem connection_eq (id : ConnectionId) :
    b.connection (s.connections id) = b.connection (t.connections id) :=
  congrArg (fun u : Session σ => u.connections id) same

theorem ambient_eq (id : ConnectionId) :
    (s.connections id).ambient = (t.connections id).ambient :=
  (congrArg Connection.ambient (connection_eq same id) :)

theorem traceLimit_eq (shown : b.diagnostics = false) : s.traceLimit = t.traceLimit :=
  eq_of_detail shown (congrArg Session.traceLimit same)

theorem commandIds_eq (shown : b.diagnostics = false) (i : Ticket) :
    s.commandIds i = t.commandIds i :=
  eq_of_detail shown (congrArg (fun u : Session σ => u.commandIds i) same)

theorem nextCommand_eq (shown : b.diagnostics = false) : s.nextCommand = t.nextCommand :=
  eq_of_detail shown (congrArg Session.nextCommand same)

end Views

theorem session_noted (e : Entry) (s : Session σ) :
    b.session (s.noted e) =
      { b.session s with
        journal := (b.session s).journal ++ ((b.shown? e).map (⟨s.scene, ·⟩)).toList } := by
  have shown : b.moment? ⟨s.scene, e⟩ = (b.shown? e).map (⟨s.scene, ·⟩) := rfl
  have journal : ((s.noted e).journal).filterMap b.moment? =
      s.journal.filterMap b.moment? ++ ((b.shown? e).map (⟨s.scene, ·⟩)).toList := by
    rw [← shown, noted, List.filterMap_append]
    cases told : b.moment? ⟨s.scene, e⟩ <;> simp [told]
  unfold session
  rw [journal]
  rfl

theorem session_noted_of_none {e : Entry} (overlooked : b.shown? e = none) (s : Session σ) :
    b.session (s.noted e) = b.session s := by
  rw [session_noted, overlooked]
  simp

theorem session_setConnection (id : ConnectionId) (c : Connection σ) (s : Session σ) :
    b.session (s.setConnection id c) = (b.session s).setConnection id (b.connection c) := by
  have each : ∀ i, b.connection (if i = id then c else s.connections i) =
      if i = id then b.connection c else b.connection (s.connections i) := fun i => apply_ite ..
  simp only [session, setConnection, each]

theorem session_setCommandId (i : Ticket) (minted : CommandId) (s : Session σ) :
    b.session (s.setCommandId i minted) =
      { b.session s with
        commandIds := fun j =>
          if j = i then b.detail none (some minted) else (b.session s).commandIds j } := by
  have each : ∀ j, b.detail none (if j = i then some minted else s.commandIds j) =
      if j = i then b.detail none (some minted) else b.detail none (s.commandIds j) :=
    fun j => apply_ite ..
  simp only [session, setCommandId, each]

theorem Alike.noted (alike : b.Alike s t) {e e' : Entry} (same : b.shown? e = b.shown? e') :
    b.Alike (s.noted e) (t.noted e') where
  same := by rw [session_noted, session_noted, alike.same, same, scene_eq alike.same]
  heard := alike.heard

theorem Alike.moved (alike : b.Alike s t) (f : Scene σ → Scene σ) :
    b.Alike (s.moved f) (t.moved f) where
  same := congrArg (fun u : Session σ => u.moved f) alike.same
  heard := alike.heard

theorem Alike.setConnection (alike : b.Alike s t) (id : ConnectionId) {c c' : Connection σ}
    (same : b.connection c = b.connection c') (heard : b.Heard c.logger c'.logger) :
    b.Alike (s.setConnection id c) (t.setConnection id c') where
  same := by rw [session_setConnection, session_setConnection, alike.same, same]
  heard i := by
    by_cases here : i = id
    · rw [here, setConnection_same, setConnection_same]
      exact heard
    · rw [setConnection_of_ne s here, setConnection_of_ne t here]
      exact alike.heard i

end Blur

namespace Engine

/-- Two computations of which a comparison sees the same, seeing of their values the given view. -/
structure Match (b : Blur) (heeds : Prop) (view : α → γ) (m n : Engine σ α) : Prop where
  reveals : Obeys Reveals m
  agrees {s t : Session σ} (alike : b.Alike s t) (calm : heeds → Calm s (m s).2) :
    view (m s).1 = view (n t).1 ∧ b.Alike (m s).2 (n t).2

variable {b : Blur} {heeds : Prop} {view : α → γ} {view' : β → δ}

theorem Match.pure {a a' : α} (same : view a = view a') :
    Match b heeds view (pure a : Engine σ α) (pure a') where
  reveals := .pure a
  agrees alike _ := ⟨same, alike⟩

theorem Match.bind {m n : Engine σ α} {f g : α → Engine σ β} (first : Match b heeds view m n)
    (rest : ∀ a a', view a = view a' → Match b heeds view' (f a) (g a')) :
    Match b heeds view' (m >>= f) (n >>= g) where
  reveals := first.reveals.bind fun a => (rest a a rfl).reveals
  agrees {s t} alike calm := by
    have later : ∀ a, Obeys Reveals (f a) := fun a => (rest a a rfl).reveals
    have parts := fun heed => (calm heed).parts (first.reveals s) (later _ _)
    obtain ⟨same, alike⟩ := first.agrees alike fun heed => (parts heed).1
    exact (rest _ _ same).agrees alike fun heed => (parts heed).2

theorem Match.andThen {m n : Engine σ α} {f g : α → Engine σ β} (first : Match b heeds id m n)
    (rest : ∀ a, Match b heeds view' (f a) (g a)) : Match b heeds view' (m >>= f) (n >>= g) :=
  first.bind fun a a' same => by
    cases same
    exact rest a

theorem Match.map {m n : Engine σ α} {f g : α → β} (first : Match b heeds view m n)
    (each : ∀ a a', view a = view a' → view' (f a) = view' (g a')) :
    Match b heeds view' (f <$> m) (g <$> n) where
  reveals := first.reveals.map f
  agrees alike calm := (first.agrees alike calm).imp (each _ _) id

theorem Match.ite {p : Prop} [Decidable p] {m m' n n' : Engine σ α}
    (yes : p → Match b heeds view m n) (no : ¬ p → Match b heeds view m' n') :
    Match b heeds view (if p then m else m') (if p then n else n') := by
  by_cases holds : p
  · rw [if_pos holds, if_pos holds]
    exact yes holds
  · rw [if_neg holds, if_neg holds]
    exact no holds

theorem match_get : Match b heeds b.session (get : Engine σ (Session σ)) get where
  reveals := obeys_get
  agrees alike _ := ⟨alike.same, alike⟩

theorem match_get_alike {f g : Session σ → Engine σ β} (reveals : ∀ u, Obeys Reveals (f u))
    (rest : ∀ u u', b.Alike u u' → Match b heeds view' (f u) (g u')) :
    Match b heeds view' (get >>= f) (get >>= g) where
  reveals s := reveals s s
  agrees alike calm := (rest _ _ alike).agrees alike calm

theorem match_connection (c : ConnectionId) :
    Match b heeds b.connection (connection c : Engine σ (Connection σ)) (connection c) :=
  match_get.bind fun _ _ same => .pure (Blur.connection_eq same c)

theorem match_scene (f : Scene σ → α) :
    Match b heeds id (do return f (← get).scene : Engine σ α) (do return f (← get).scene) :=
  match_get.bind fun _ _ same => .pure (congrArg f (Blur.scene_eq same))

theorem match_record {e e' : Entry} (same : b.shown? e = b.shown? e') :
    Match b heeds id (record e : Engine σ Unit) (record e') where
  reveals := reveals_noted e
  agrees alike _ := ⟨rfl, alike.noted same⟩

theorem match_record_act {e e' : Entry} (same : b.shown? e = b.shown? e') {a a' : Act σ α}
    (acts : a = a') :
    Match b heeds id (do record e; act a) (do record e'; act a') := by
  subst acts
  refine ⟨reveals_noted_moved e fun s => (a s).2, fun {s t} alike _ => ⟨?_, ?_⟩⟩
  · have scene : s.scene = t.scene := Blur.scene_eq alike.same
    exact congrArg (fun x => (a x).1) scene
  · exact (alike.noted same).moved fun x => (a x).2

theorem match_record_act_bind {e e' : Entry} (same : b.shown? e = b.shown? e') {a a' : Act σ α}
    (acts : a = a') {f g : α → Engine σ β} (rest : ∀ x, Match b heeds view' (f x) (g x)) :
    Match b heeds view' (do record e; let x ← act a; f x) (do record e'; let x ← act a'; g x) :=
  (match_record_act same acts).andThen rest

theorem match_call {note note' : NativeCall} (same : b.call note = b.call note') {a a' : Act σ α}
    (acts : a = a') : Match b heeds id (call note a) (call note' a') :=
  match_record_act (show b.shown? (.native note) = b.shown? (.native note') from
    congrArg (some ∘ Entry.native) same) acts

theorem match_trace (level : TraceLevel) (target message : String)
    {fields fields' : List (String × TraceValue)}
    (same : fields.map b.field = fields'.map b.field) :
    Match b heeds id (trace level target message fields : Engine σ Unit)
      (trace level target message fields') where
  reveals := obeys_trace _ _ _ _
  agrees {s t} alike _ := by
    refine ⟨rfl, ?_⟩
    have unfolded : ∀ (fields : List (String × TraceValue)) (u : Session σ),
        (trace level target message fields u).2 =
          if level.isKept u.traceLimit then u.noted (.trace ⟨level, target, message, fields⟩)
          else u := fun fields u => by
      simp only [trace, bind_apply]
      change ((if level.isKept u.traceLimit then record _ else pure () : Engine σ Unit) u).2 = _
      split <;> rfl
    rw [unfolded, unfolded]
    cases shown : b.diagnostics with
    | true =>
      have overlooked : ∀ r, b.shown? (.trace r) = none := fun r => Blur.detail_of_overlooked shown
      refine ⟨?_, fun id => ?_⟩
      · split <;> split <;> simp only [Blur.session_noted_of_none (overlooked _), alike.same]
      · split <;> split <;> exact alike.heard id
    | false =>
      rw [Blur.traceLimit_eq alike.same shown]
      split
      · refine alike.noted ?_
        simp only [Blur.shown?, Blur.record, same]
      · exact alike

theorem match_warn (target message : String) (fields : List (String × TraceValue))
    (o : Outcome Unit) :
    Match b heeds id (warn target message fields o : Engine σ Unit)
      (warn target message fields o) := by
  unfold warn
  split
  · exact match_trace _ _ _ rfl
  · exact .pure rfl

theorem match_modifyConnection (c : ConnectionId) {f : Connection σ → Connection σ}
    (each : ∀ k k', b.connection k = b.connection k' → b.connection (f k) = b.connection (f k'))
    (kept : ∀ k, (f k).logger = k.logger) :
    Match b heeds id (modifyConnection c f) (modifyConnection c f) where
  reveals _ := reveals_of_scene_eq rfl rfl
  agrees {s t} alike _ := by
    refine ⟨rfl, alike.setConnection c (each _ _ (Blur.connection_eq alike.same c)) ?_⟩
    rw [kept, kept]
    exact alike.heard c

theorem match_newTicket : Match b heeds id (newTicket : Engine σ Ticket) newTicket where
  reveals := obeys_newTicket
  agrees {s t} alike _ := by
    refine ⟨Blur.ticket_eq alike.same, ?_, alike.heard⟩
    exact congrArg (fun u : Session σ => { u with nextTicket := u.nextTicket + 1 }) alike.same

theorem match_setCommandId (i : Ticket) (minted : CommandId) :
    Match b heeds id (modify (·.setCommandId i minted) : Engine σ Unit)
      (modify (·.setCommandId i minted)) where
  reveals _ := reveals_of_scene_eq rfl rfl
  agrees {s t} alike _ := by
    have same : b.session (s.setCommandId i minted) = b.session (t.setCommandId i minted) := by
      rw [Blur.session_setCommandId, Blur.session_setCommandId, alike.same]
    exact ⟨rfl, same, alike.heard⟩

theorem match_mint : Match b heeds id (mint : Engine σ Nat) mint where
  reveals := obeys_mint
  agrees {s t} alike _ := by
    refine ⟨Blur.serial_eq alike.same, ?_, alike.heard⟩
    exact congrArg (fun u : Session σ => { u with nextSerial := u.nextSerial + 1 }) alike.same

theorem match_raising (gate : Logger σ → Option TraceLevel → Bool)
    {logger logger' : Option (Logger σ)} (heard : b.Heard logger logger')
    {f g : Option (Logger σ) → Engine σ β}
    (rest : ∀ l l', b.Heard l l' → Match b heeds view' (f l) (g l')) :
    Match b heeds view' (raising gate logger >>= f) (raising gate logger' >>= g) where
  reveals s := (rest _ _ (heard.filter fun _ => rfl)).reveals s
  agrees {s t} alike calm :=
    have limits (shown : b.diagnostics = false) :
        (gate · s.traceLimit) = (gate · t.traceLimit) := by
      rw [Blur.traceLimit_eq alike.same shown]
    (rest _ _ (heard.filter limits)).agrees alike calm

end Engine

namespace Attempt

/-- Failures are seen as they are, and of values the given view. -/
def Match (b : Blur) (heeds : Prop) (view : α → γ) (m n : Attempt σ α) : Prop :=
  Engine.Match b heeds (Except.map view) m.observe n.observe

variable {b : Blur} {heeds : Prop} {view : α → γ} {view' : β → δ} {m n : Attempt σ α}

theorem Match.pure {a a' : α} (same : view a = view a') :
    Match b heeds view (pure a : Attempt σ α) (pure a') :=
  Engine.Match.pure (congrArg Except.ok same)

theorem match_throw (failure : Failure) :
    Match b heeds view (throw failure : Attempt σ α) (throw failure) := Engine.Match.pure rfl

theorem match_ofOutcome {o o' : Outcome α} (same : o.map view = o'.map view) :
    Match b heeds view (ofOutcome o : Attempt σ α) (ofOutcome o') := Engine.Match.pure same

theorem Match.bind {f g : α → Attempt σ β} (first : Match b heeds view m n)
    (rest : ∀ a a', view a = view a' → Match b heeds view' (f a) (g a')) :
    Match b heeds view' (m >>= f) (n >>= g) := by
  unfold Match
  rw [observe_bind, observe_bind]
  refine Engine.Match.bind first fun o o' same => ?_
  rcases o with failure | a <;> rcases o' with failure' | a'
  · exact .pure (congrArg Except.error (Except.error.inj same))
  · cases same
  · cases same
  · exact rest a a' (Except.ok.inj same)

theorem Match.andThen {f g : α → Attempt σ β} (first : Match b heeds id m n)
    (rest : ∀ a, Match b heeds view' (f a) (g a)) : Match b heeds view' (m >>= f) (n >>= g) :=
  first.bind fun a a' same => by
    cases same
    exact rest a

theorem Match.ite {p : Prop} [Decidable p] {m m' n n' : Attempt σ α}
    (yes : p → Match b heeds view m n) (no : ¬ p → Match b heeds view m' n') :
    Match b heeds view (if p then m else m') (if p then n else n') := by
  by_cases holds : p
  · rw [if_pos holds, if_pos holds]
    exact yes holds
  · rw [if_neg holds, if_neg holds]
    exact no holds

theorem match_lift {m n : Engine σ α} (h : Engine.Match b heeds view m n) :
    Match b heeds view (lift m) (lift n) := h.map fun _ _ same => congrArg Except.ok same

theorem Match.seen (h : Match b heeds id m n) : Engine.Match b heeds id m.observe n.observe where
  reveals := h.reveals
  agrees alike calm := by
    obtain ⟨same, alike⟩ := h.agrees alike calm
    rw [Except.map_id] at same
    exact ⟨same, alike⟩

theorem Match.ofSeen (h : Engine.Match b heeds id m.observe n.observe) : Match b heeds id m n where
  reveals := h.reveals
  agrees alike calm := (h.agrees alike calm).imp (congrArg (Except.map id)) id

theorem Match.outcomeThen {f g : Outcome α → Attempt σ β} (first : Match b heeds id m n)
    (rest : ∀ o, Match b heeds view' (f o) (g o)) :
    Match b heeds view' (m.outcome >>= f) (n.outcome >>= g) :=
  Match.andThen (match_lift first.seen) rest

theorem match_get : Match b heeds b.session (get : Attempt σ (Session σ)) get where
  reveals := obeys_get
  agrees alike _ := ⟨congrArg Except.ok alike.same, alike⟩

theorem match_get_alike {f g : Session σ → Attempt σ β} (reveals : ∀ u, Obeys Reveals (f u))
    (rest : ∀ u u', b.Alike u u' → Match b heeds view' (f u) (g u')) :
    Match b heeds view' (get >>= f) (get >>= g) :=
  Engine.match_get_alike (f := fun u => (f u).observe) (g := fun u => (g u).observe) reveals rest

theorem match_trace (level : TraceLevel) (target message : String)
    {fields fields' : List (String × TraceValue)}
    (same : fields.map b.field = fields'.map b.field) :
    Match b heeds id (trace level target message fields : Attempt σ Unit)
      (trace level target message fields') :=
  match_lift (Engine.match_trace _ _ _ same)

theorem match_call {note note' : NativeCall} (same : b.call note = b.call note')
    {mode mode' : Mode} {d d' : Dual σ α} (performs : d.perform mode = d'.perform mode') :
    Match b heeds id (call note mode d) (call note' mode' d') :=
  .ofSeen (Engine.match_call same performs)

theorem match_callPlain (note : NativeCall) (a : Act σ (Result α)) :
    Match b heeds id (callPlain note a) (callPlain note a) :=
  .ofSeen ((Engine.match_call rfl rfl).map fun _ _ same => congrArg Outcome.ofResult same)

theorem match_checkpoint {mode mode' : Mode} (forms : b.Forms heeds mode mode') :
    Match b heeds id (checkpoint mode : Attempt σ Unit) (checkpoint mode') where
  reveals := obeys_checkpoint mode
  agrees {s t} alike calm := by
    refine ⟨?_, alike⟩
    have looked : ∀ (m : Mode) (u : Session σ),
        ((checkpoint m : Attempt σ Unit).observe u).1 = m.checkpoint u.scene.cancelled :=
      fun _ _ => rfl
    rw [looked, looked, ← Blur.scene_eq alike.same]
    have goes : heeds → ∀ m : Mode, m.checkpoint s.scene.cancelled = .ok () := fun heed m => by
      rw [show s.scene.cancelled = none from (calm heed).2, Mode.checkpoint_none]
    cases mode with
    | async => rw [goes (forms.heeds (.inl rfl)), goes (forms.heeds (.inl rfl))]
    | blocking =>
      cases mode' with
      | async => rw [goes (forms.heeds (.inr rfl)), goes (forms.heeds (.inr rfl))]
      | blocking => rfl

theorem match_raising (gate : Logger σ → Option TraceLevel → Bool)
    {logger logger' : Option (Logger σ)} (heard : b.Heard logger logger')
    {f g : Option (Logger σ) → Attempt σ β}
    (rest : ∀ l l', b.Heard l l' → Match b heeds view' (f l) (g l')) :
    Match b heeds view' (lift (Engine.raising gate logger) >>= f)
      (lift (Engine.raising gate logger') >>= g) := Engine.match_raising gate heard rest

end Attempt

end SqlExecution
