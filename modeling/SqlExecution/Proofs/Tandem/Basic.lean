import SqlExecution.Proofs.Identifiers

/-! Two runs in tandem. They may find different scenes and be given different commands as far as the
tandem allows, they write the same trace records all the same, and what the tandem holds on to stays
true of the first of them. A run beside itself is a case of this: then what is held on to is a fact
about one run, which may also tell of its trace records and identifiers. -/

namespace SqlExecution

variable {σ α β γ δ ι : Type}

open Session

def TraceRecord.field? (name : String) (r : TraceRecord) : Option TraceValue := r.fields.lookup name

/-- The record is one of an event: its fields that name the execution name that of the event. -/
structure TraceRecord.Tells (r : TraceRecord) (e : CommandEvent) : Prop where
  commandId : r.field? "command_id" = some (.text e.commandId)
  connection : r.field? "connection_id" = some (.text e.connection)
  method : ∀ v ∈ r.field? "method", v = .text e.method.verb
  source : ∀ v ∈ r.field? "source", v = .text e.source.name

namespace Entry

def record? : Entry → Option TraceRecord
  | .trace r => some r
  | _ => none

/-- The entry is a delivery or a trace record of the event. -/
def Tells (e : CommandEvent) : Entry → Prop
  | .hook d => ∃ c, d.subject = .command e c
  | .trace r => r.Tells e
  | _ => False

/-- The entry is not of an event of an execution. -/
def Plain : Entry → Prop
  | .hook d => ∀ e c, d.subject ≠ .command e c
  | .trace r => r.field? "command_id" = none
  | _ => True

/-- A trace record is only written if its level is kept. -/
def Kept (s : Session σ) (e : Entry) : Prop :=
  ∀ r, e = .trace r → r.level.isKept s.traceLimit = true

end Entry

def Session.traces (s : Session σ) : List TraceRecord := s.entries.filterMap Entry.record?

theorem Session.traces_noted (e : Entry) (s : Session σ) :
    (s.noted e).traces = s.traces ++ e.record?.toList := by
  cases shown : e.record? <;> simp [traces, entries, noted, shown]

/-- Both ended with such values, or both failed in the same way. -/
def SameEnd {ε : Type} (V : α → β → Prop) : Except ε α → Except ε β → Prop
  | .ok a, .ok b => V a b
  | .error e, .error e' => e = e'
  | _, _ => False

theorem sameEnd_eq {ε : Type} {o o' : Except ε α} (same : SameEnd Eq o o') : o = o' := by
  cases o <;> cases o' <;> first | exact congrArg _ same | cases same

theorem sameEnd_refl {ε : Type} {V : α → α → Prop} (refl : ∀ a, V a a) (o : Except ε α) :
    SameEnd V o o := by
  cases o with
  | ok a => exact refl a
  | error e => rfl

theorem SameEnd.mono {ε : Type} {V W : α → β → Prop} {o : Except ε α} {o' : Except ε β}
    (same : SameEnd V o o') (weaker : ∀ a b, V a b → W a b) : SameEnd W o o' := by
  cases o <;> cases o'
  · exact same
  · cases same
  · cases same
  · exact weaker _ _ same

theorem SameEnd.ofResult {V : α → β → Prop} {r : Result α} {r' : Result β} (same : SameEnd V r r') :
    SameEnd V (Outcome.ofResult r) (Outcome.ofResult r') := by
  cases r <;> cases r'
  · exact congrArg Failure.error same
  · exact same
  · exact same
  · exact same

/-- Two acts that keep scenes alike and end with such values. -/
def Act.Alike (D : Scene σ → Scene σ → Prop) (V : α → β → Prop) (a : Act σ α) (a' : Act σ β) :
    Prop := ∀ x x', D x x' → V (a x).1 (a' x').1 ∧ D (a x).2 (a' x').2

theorem Act.alike_self {V : α → α → Prop} (refl : ∀ a, V a a) (a : Act σ α) :
    Act.Alike Eq V a a := fun x x' same => by
  cases same
  exact ⟨refl _, rfl⟩

theorem Act.Alike.of_eq {D : Scene σ → Scene σ → Prop} {V : α → α → Prop} (refl : ∀ a, V a a)
    {a a' : Act σ α} (alike : Act.Alike D Eq a a') : Act.Alike D V a a' := fun x x' same => by
  obtain ⟨value, scene⟩ := alike x x' same
  exact ⟨value ▸ refl _, scene⟩

theorem Engine.trace_snd (level : TraceLevel) (target message : String)
    (fields : List (String × TraceValue)) (s : Session σ) :
    (trace level target message fields s).2 =
      if level.isKept s.traceLimit then s.noted (.trace ⟨level, target, message, fields⟩)
      else s := by
  simp only [trace, bind_apply]
  change ((if level.isKept s.traceLimit then record _ else pure () : Engine σ Unit) s).2 = _
  split <;> rfl

/-- Two runs side by side: in what they may differ, and what stays true of the first. -/
structure Tandem (σ : Type) where
  scenes : Scene σ → Scene σ → Prop
  commands : NativeCommand → NativeCommand → Prop
  holds : Session σ → Prop
  /-- The executions that events may be raised for. -/
  infos : ExecutionInfo → Prop
  /-- The events that may be raised. -/
  events : CommandEvent → Prop

namespace Tandem

/-- Sessions of the two runs at the same point. -/
structure Meets (t : Tandem σ) (s s' : Session σ) : Prop where
  scenes : t.scenes s.scene s'.scene
  traceLimit : s'.traceLimit = s.traceLimit
  connections : s'.connections = s.connections
  commandIds : s'.commandIds = s.commandIds
  nextTicket : s'.nextTicket = s.nextTicket
  nextSerial : s'.nextSerial = s.nextSerial
  nextCommand : s'.nextCommand = s.nextCommand
  traces : s'.traces = s.traces
  holds : t.holds s

/-- What may be noted: what is of no execution, or of an event that may be raised. -/
def Allows (t : Tandem σ) (e : Entry) : Prop := e.Plain ∨ ∃ event, t.events event ∧ e.Tells event

/-- What is held on to may be: every step leaves it true that the engine takes between two calls,
and so does what the surroundings do. -/
structure Watches (t : Tandem σ) : Prop where
  cancelled {x x' : Scene σ} : t.scenes x x' → x'.cancelled = x.cancelled
  notes {s : Session σ} {e : Entry} : t.holds s → e.Kept s → t.Allows e → t.holds (s.noted e)
  moves {s : Session σ} (scene : Scene σ) : t.holds s → t.holds { s with scene }
  connects {s : Session σ} (connections : ConnectionId → Connection σ) :
    t.holds s → t.holds { s with connections }
  tickets {s : Session σ} : t.holds s → t.holds { s with nextTicket := s.nextTicket + 1 }
  serials {s : Session σ} : t.holds s → t.holds { s with nextSerial := s.nextSerial + 1 }
  raises {info : ExecutionInfo} {s : Session σ} : t.infos info → t.holds s →
    t.events (info.eventAs (s.idFor info.ticket)) ∧ t.holds (s.identified info.ticket)

/-- From sessions that meet, two computations end with such values and in sessions that meet. -/
def Runs (t : Tandem σ) (V : α → β → Prop) (m : Engine σ α) (m' : Engine σ β) : Prop :=
  ∀ s s', t.Meets s s' → V (m s).1 (m' s').1 ∧ t.Meets (m s).2 (m' s').2

def Tries (t : Tandem σ) (V : α → β → Prop) (m : Attempt σ α) (m' : Attempt σ β) : Prop :=
  t.Runs (SameEnd V) m.observe m'.observe

variable {t : Tandem σ} {V : α → β → Prop} {W : γ → δ → Prop}

theorem Meets.moved {s s' : Session σ} (meets : t.Meets s s') (watches : t.Watches)
    {scene scene' : Scene σ} (alike : t.scenes scene scene') :
    t.Meets { s with scene } { s' with scene := scene' } :=
  { meets with scenes := alike, holds := watches.moves scene meets.holds, traces := meets.traces }

theorem Meets.noted {s s' : Session σ} (meets : t.Meets s s') (watches : t.Watches) {e e' : Entry}
    (shown : e'.record? = e.record?) (kept : e.Kept s) (allowed : t.Allows e) :
    t.Meets (s.noted e) (s'.noted e') where
  scenes := meets.scenes
  traceLimit := meets.traceLimit
  connections := meets.connections
  commandIds := meets.commandIds
  nextTicket := meets.nextTicket
  nextSerial := meets.nextSerial
  nextCommand := meets.nextCommand
  traces := by rw [traces_noted, traces_noted, shown, meets.traces]
  holds := watches.notes meets.holds kept allowed

/-- A run beside itself, of which something stays true while such events are raised. -/
def alone (holds : Session σ → Prop) (infos : ExecutionInfo → Prop)
    (events : CommandEvent → Prop) : Tandem σ := ⟨Eq, Eq, holds, infos, events⟩

theorem alone_meets {holds : Session σ → Prop} {infos : ExecutionInfo → Prop}
    {events : CommandEvent → Prop} {s : Session σ} (here : holds s) :
    (alone holds infos events).Meets s s := ⟨rfl, rfl, rfl, rfl, rfl, rfl, rfl, rfl, here⟩

theorem Runs.alone {holds : Session σ → Prop} {infos : ExecutionInfo → Prop}
    {events : CommandEvent → Prop} {V : α → α → Prop} {m : Engine σ α}
    (runs : (alone holds infos events).Runs V m m) {s : Session σ} (here : holds s) :
    V (m s).1 (m s).1 ∧ holds (m s).2 :=
  (runs s s (alone_meets here)).imp id Meets.holds

namespace Runs

theorem pure {a : α} {b : β} (value : V a b) : t.Runs V (Pure.pure a) (Pure.pure b) :=
  fun _ _ meets => ⟨value, meets⟩

theorem bind {m : Engine σ α} {m' : Engine σ β} {f : α → Engine σ γ} {f' : β → Engine σ δ}
    (first : t.Runs V m m') (rest : ∀ a b, V a b → t.Runs W (f a) (f' b)) :
    t.Runs W (m >>= f) (m' >>= f') := fun s s' meets => by
  obtain ⟨value, meets⟩ := first s s' meets
  exact rest _ _ value _ _ meets

theorem andThen {m m' : Engine σ α} {f : α → Engine σ γ} {f' : α → Engine σ δ}
    (first : t.Runs Eq m m') (rest : ∀ a, t.Runs W (f a) (f' a)) :
    t.Runs W (m >>= f) (m' >>= f') :=
  first.bind fun a b same => by
    cases same
    exact rest a

theorem map {m : Engine σ α} {m' : Engine σ β} {f : α → γ} {f' : β → δ} (first : t.Runs V m m')
    (each : ∀ a b, V a b → W (f a) (f' b)) : t.Runs W (f <$> m) (f' <$> m') :=
  fun s s' meets => (first s s' meets).imp (each _ _) id

theorem mono {V' : α → β → Prop} {m : Engine σ α} {m' : Engine σ β} (first : t.Runs V m m')
    (weaker : ∀ a b, V a b → V' a b) : t.Runs V' m m' :=
  fun s s' meets => (first s s' meets).imp (weaker _ _) id

theorem get {f : Session σ → Engine σ γ} {f' : Session σ → Engine σ δ}
    (rest : ∀ s s', t.Meets s s' → t.Runs W (f s) (f' s')) :
    t.Runs W (MonadState.get >>= f) (MonadState.get >>= f') :=
  fun s s' meets => rest s s' meets s s' meets

theorem ite {p : Prop} [Decidable p] {m m₁ : Engine σ α} {m' m₁' : Engine σ β}
    (yes : p → t.Runs V m m') (no : ¬ p → t.Runs V m₁ m₁') :
    t.Runs V (if p then m else m₁) (if p then m' else m₁') := by
  by_cases holds : p
  · rw [if_pos holds, if_pos holds]
    exact yes holds
  · rw [if_neg holds, if_neg holds]
    exact no holds

theorem of_silent {m : Engine σ α} {m' : Engine σ β}
    (value : ∀ s s', t.Meets s s' → V (m s).1 (m' s').1) (silent : ∀ s, (m s).2 = s)
    (silent' : ∀ s, (m' s).2 = s) : t.Runs V m m' := fun s s' meets => by
  rw [silent, silent']
  exact ⟨value s s' meets, meets⟩

end Runs

section Steps

variable (watches : t.Watches)
include watches

theorem runs_record {e e' : Entry} (untraced : e.record? = none) (untraced' : e'.record? = none)
    (allowed : t.Allows e) : t.Runs Eq (Engine.record e) (Engine.record e') := fun s s' meets => by
  have kept : e.Kept s := fun r is => by simp [is, Entry.record?] at untraced
  exact ⟨rfl, meets.noted watches (untraced'.trans untraced.symm) kept allowed⟩

theorem runs_act {a : Act σ α} {a' : Act σ β} (alike : Act.Alike t.scenes V a a') :
    t.Runs V (Engine.act a) (Engine.act a') := fun s s' meets => by
  obtain ⟨value, scene⟩ := alike _ _ meets.scenes
  exact ⟨value, meets.moved watches scene⟩

theorem runs_call {note note' : NativeCall} {a : Act σ α} {a' : Act σ β}
    (alike : Act.Alike t.scenes V a a') : t.Runs V (Engine.call note a) (Engine.call note' a') := by
  have noted : t.Runs Eq (Engine.record (.native note)) (Engine.record (.native note')) :=
    runs_record watches rfl rfl (.inl trivial)
  exact noted.andThen fun _ => runs_act watches alike

theorem runs_trace {level : TraceLevel} {target message : String}
    {fields : List (String × TraceValue)}
    (allowed : t.Allows (.trace ⟨level, target, message, fields⟩)) :
    t.Runs Eq (Engine.trace level target message fields)
      (Engine.trace level target message fields) := fun s s' meets => by
  refine ⟨rfl, ?_⟩
  rw [Engine.trace_snd, Engine.trace_snd, meets.traceLimit]
  split
  · next kept =>
    refine meets.noted watches rfl (fun r is => ?_) allowed
    cases is
    exact kept
  · exact meets

theorem runs_plainTrace {level : TraceLevel} {target message : String}
    {fields : List (String × TraceValue)} (unnamed : fields.lookup "command_id" = none) :
    t.Runs Eq (Engine.trace level target message fields)
      (Engine.trace level target message fields) :=
  runs_trace watches (.inl (by simp [Entry.Plain, TraceRecord.field?, unnamed]))

theorem runs_warn (target message : String) {fields : List (String × TraceValue)}
    (unnamed : fields.lookup "command_id" = none) (o : Outcome Unit) :
    t.Runs Eq (Engine.warn target message fields o) (Engine.warn target message fields o) := by
  unfold Engine.warn
  split
  · refine runs_plainTrace watches ?_
    rw [List.lookup_append, unnamed]
    rfl
  · exact .pure rfl

omit watches in
theorem runs_raising (gate : Logger σ → Option TraceLevel → Bool) {logger : Option (Logger σ)}
    {f : Option (Logger σ) → Engine σ γ} {f' : Option (Logger σ) → Engine σ δ}
    (rest : ∀ raised : Option (Logger σ), (∀ l ∈ raised, l ∈ logger) →
      t.Runs W (f raised) (f' raised)) :
    t.Runs W (Engine.raising gate logger >>= f) (Engine.raising gate logger >>= f') :=
  fun s s' meets => by
    have same : Engine.raising gate logger s' = ((Engine.raising gate logger s).1, s') := by
      simp only [Engine.raising, Engine.bind_apply]
      change (logger.filter (gate · s'.traceLimit), s') = _
      rw [meets.traceLimit]
      rfl
    rw [Engine.bind_apply, Engine.bind_apply, same]
    exact rest _ (fun l member => (Option.mem_filter_iff.1 member).1) s s' meets

theorem runs_event {info : ExecutionInfo} (may : t.infos info) :
    t.Runs (fun event event' => event' = event ∧ t.events event) info.event info.event :=
  fun s s' meets => by
    obtain ⟨allowed, holds⟩ := watches.raises may meets.holds
    have same : s'.idFor info.ticket = s.idFor info.ticket := by
      simp [idFor, meets.commandIds, meets.nextCommand]
    rw [info.event_eq, info.event_eq]
    refine ⟨⟨by rw [same], allowed⟩, ?_⟩
    rw [identified_eq _ s] at holds ⊢
    rw [identified_eq _ s']
    exact { meets with
      commandIds := by simp [meets.commandIds, same]
      nextCommand := by simp [meets.commandIds, meets.nextCommand]
      holds, traces := meets.traces }

theorem runs_modifyConnection (id : ConnectionId) (f : Connection σ → Connection σ) :
    t.Runs Eq (Engine.modifyConnection id f) (Engine.modifyConnection id f) := fun s s' meets => by
  have same : (s'.setConnection id (f (s'.connections id))).connections =
      (s.setConnection id (f (s.connections id))).connections := by
    simp [Session.setConnection, meets.connections]
  exact ⟨rfl, { meets with
    connections := same, holds := watches.connects _ meets.holds, traces := meets.traces }⟩

theorem runs_newTicket : t.Runs Eq Engine.newTicket Engine.newTicket := fun _ _ meets =>
  ⟨meets.nextTicket.symm, { meets with
    nextTicket := congrArg (· + 1) meets.nextTicket, holds := watches.tickets meets.holds
    traces := meets.traces }⟩

theorem runs_mint : t.Runs Eq Engine.mint Engine.mint := fun _ _ meets =>
  ⟨meets.nextSerial.symm, { meets with
    nextSerial := congrArg (· + 1) meets.nextSerial, holds := watches.serials meets.holds
    traces := meets.traces }⟩

omit watches in
theorem runs_forM {f f' : ι → Engine σ Unit} {is : List ι}
    (each : ∀ i ∈ is, t.Runs Eq (f i) (f' i)) : t.Runs Eq (is.forM f) (is.forM f') := by
  induction is with
  | nil => exact .pure rfl
  | cons i rest ih =>
    have first := each i (List.mem_cons_self ..)
    exact first.andThen fun _ => ih fun j member => each j (List.mem_cons_of_mem _ member)

end Steps

namespace Tries

theorem pure {a : α} {b : β} (value : V a b) : t.Tries V (Pure.pure a) (Pure.pure b) :=
  Runs.pure value

theorem throw (failure : Failure) :
    t.Tries V (MonadExcept.throw failure) (MonadExcept.throw failure) := Runs.pure rfl

theorem ofOutcome {o : Outcome α} {o' : Outcome β} (same : SameEnd V o o') :
    t.Tries V (Attempt.ofOutcome o) (Attempt.ofOutcome o') := Runs.pure same

theorem bind {m : Attempt σ α} {m' : Attempt σ β} {f : α → Attempt σ γ} {f' : β → Attempt σ δ}
    (first : t.Tries V m m') (rest : ∀ a b, V a b → t.Tries W (f a) (f' b)) :
    t.Tries W (m >>= f) (m' >>= f') := by
  unfold Tries
  rw [Attempt.observe_bind, Attempt.observe_bind]
  refine Runs.bind first fun o o' same => ?_
  cases o <;> cases o'
  · cases same
    exact .pure rfl
  · cases same
  · cases same
  · exact rest _ _ same

theorem andThen {m m' : Attempt σ α} {f : α → Attempt σ γ} {f' : α → Attempt σ δ}
    (first : t.Tries Eq m m') (rest : ∀ a, t.Tries W (f a) (f' a)) :
    t.Tries W (m >>= f) (m' >>= f') :=
  first.bind fun a b same => by
    cases same
    exact rest a

theorem mono {V' : α → β → Prop} {m : Attempt σ α} {m' : Attempt σ β} (first : t.Tries V m m')
    (weaker : ∀ a b, V a b → V' a b) : t.Tries V' m m' :=
  Runs.mono first fun _ _ same => same.mono weaker

theorem lift {m : Engine σ α} {m' : Engine σ β} (first : t.Runs V m m') :
    t.Tries V (Attempt.lift m) (Attempt.lift m') := first.map fun _ _ value => value

theorem outcomeBind {m : Attempt σ α} {m' : Attempt σ β} {f : Outcome α → Attempt σ γ}
    {f' : Outcome β → Attempt σ δ} (first : t.Tries V m m')
    (rest : ∀ o o', SameEnd V o o' → t.Tries W (f o) (f' o')) :
    t.Tries W (m.outcome >>= f) (m'.outcome >>= f') := (lift first).bind rest

theorem outcomeThen {m m' : Attempt σ α} {f : Outcome α → Attempt σ γ}
    {f' : Outcome α → Attempt σ δ} (first : t.Tries Eq m m')
    (rest : ∀ o, t.Tries W (f o) (f' o)) :
    t.Tries W (m.outcome >>= f) (m'.outcome >>= f') :=
  first.outcomeBind fun o o' same => by
    cases sameEnd_eq same
    exact rest o

theorem get {f : Session σ → Attempt σ γ} {f' : Session σ → Attempt σ δ}
    (rest : ∀ s s', t.Meets s s' → t.Tries W (f s) (f' s')) :
    t.Tries W (MonadState.get >>= f) (MonadState.get >>= f') :=
  fun s s' meets => by
    rw [Attempt.observe_get_bind, Attempt.observe_get_bind]
    exact rest s s' meets s s' meets

theorem ite {p : Prop} [Decidable p] {m m₁ : Attempt σ α} {m' m₁' : Attempt σ β}
    (yes : p → t.Tries V m m') (no : ¬ p → t.Tries V m₁ m₁') :
    t.Tries V (if p then m else m₁) (if p then m' else m₁') := by
  by_cases holds : p
  · rw [if_pos holds, if_pos holds]
    exact yes holds
  · rw [if_neg holds, if_neg holds]
    exact no holds

theorem seen {m m' : Attempt σ α} (first : t.Tries Eq m m') : t.Runs Eq m.observe m'.observe :=
  Runs.mono first fun _ _ same => sameEnd_eq same

theorem ofSeen {m m' : Attempt σ α} (first : t.Runs Eq m.observe m'.observe) : t.Tries Eq m m' :=
  Runs.mono first fun o _ same => same ▸ sameEnd_refl (fun _ => rfl) o

end Tries

section Steps

variable (watches : t.Watches)
include watches

theorem tries_checkpoint (mode : Mode) :
    t.Tries Eq (Attempt.checkpoint mode) (Attempt.checkpoint mode) :=
  .get fun s s' meets => by
    rw [watches.cancelled meets.scenes]
    exact .ofOutcome (sameEnd_refl (fun _ => rfl) _)

theorem tries_callPlain {note note' : NativeCall} {a : Act σ (Result α)} {a' : Act σ (Result β)}
    (alike : Act.Alike t.scenes (SameEnd V) a a') :
    t.Tries V (Attempt.callPlain note a) (Attempt.callPlain note' a') :=
  (runs_call watches alike).map fun _ _ same => same.ofResult

theorem tries_callSame {note note' : NativeCall} {mode : Mode} {d d' : Dual σ α}
    (alike : Act.Alike t.scenes Eq (d.perform mode) (d'.perform mode)) :
    t.Tries Eq (Attempt.call note mode d) (Attempt.call note' mode d') :=
  .ofSeen (runs_call watches alike)

theorem tries_callPlainSame {note : NativeCall} {a : Act σ (Result α)}
    (alike : Act.Alike t.scenes Eq a a) :
    t.Tries Eq (Attempt.callPlain note a) (Attempt.callPlain note a) :=
  .ofSeen ((runs_call watches alike).map fun _ _ same => congrArg Outcome.ofResult same)

theorem tries_plainTrace {level : TraceLevel} {target message : String}
    {fields : List (String × TraceValue)} (unnamed : fields.lookup "command_id" = none) :
    t.Tries Eq (Attempt.trace level target message fields)
      (Attempt.trace level target message fields) := .lift (runs_plainTrace watches unnamed)

theorem tries_foldHooks {V : α → α → Prop} {mode : Mode} {stops : Bool}
    {deliver deliver' : ι → α → Engine σ Unit} {hook hook' : ι → α → Dual σ α} {is : List ι}
    (delivers : ∀ i a a', V a a' → t.Runs Eq (deliver i a) (deliver' i a'))
    (acts : ∀ i ∈ is, ∀ a a', V a a' → Act.Alike t.scenes (SameEnd V) ((hook i a).perform mode)
      ((hook' i a').perform mode)) {a a' : α} (value : V a a') :
    t.Tries V (Attempt.foldHooks mode stops deliver hook is a)
      (Attempt.foldHooks mode stops deliver' hook' is a') := by
  -- Each hook gets what the one before it returned, so the values vary along the induction.
  induction is generalizing a a' with
  | nil => exact .pure value
  | cons i rest ih =>
    have later := @ih fun j member => acts j (List.mem_cons_of_mem _ member)
    have first := acts i (List.mem_cons_self ..) a a' value
    have call : ∀ _ : PUnit, t.Tries V
        (do
          Attempt.lift (deliver i a)
          let next ← ExceptT.mk (Engine.act ((hook i a).perform mode))
          Attempt.foldHooks mode stops deliver hook rest next)
        (do
          Attempt.lift (deliver' i a')
          let next ← ExceptT.mk (Engine.act ((hook' i a').perform mode))
          Attempt.foldHooks mode stops deliver' hook' rest next) := by
      intro _
      refine (Tries.lift (delivers i a a' value)).andThen fun _ => ?_
      have acted : t.Tries V
          (ExceptT.mk (Engine.act ((hook i a).perform mode)) : Attempt σ α)
          (ExceptT.mk (Engine.act ((hook' i a').perform mode))) := runs_act watches first
      exact acted.bind fun _ _ => later
    unfold Attempt.foldHooks
    cases stops with
    | false => exact call ⟨⟩
    | true => exact (tries_checkpoint watches mode).andThen call

omit watches in
theorem tries_raising (gate : Logger σ → Option TraceLevel → Bool) {logger : Option (Logger σ)}
    {f : Option (Logger σ) → Attempt σ γ} {f' : Option (Logger σ) → Attempt σ δ}
    (rest : ∀ raised : Option (Logger σ), (∀ l ∈ raised, l ∈ logger) →
      t.Tries W (f raised) (f' raised)) :
    t.Tries W (Attempt.lift (Engine.raising gate logger) >>= f)
      (Attempt.lift (Engine.raising gate logger) >>= f') := by
  have runs : t.Runs (SameEnd W)
      (Engine.raising gate logger >>= fun raised => (f raised).observe)
      (Engine.raising gate logger >>= fun raised => (f' raised).observe) := runs_raising gate rest
  exact runs

end Steps

end Tandem

end SqlExecution
