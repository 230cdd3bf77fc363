import SqlExecution.Proofs.FirstFailure
import SqlExecution.Proofs.CommandRelease

/-! What an execution does before the driver is asked to execute, ending with what the executing
hooks offer in place of that. It may stop on the way for one of two reasons only: a hook, the driver
or the binding fails, or the context is found cancelled. -/

namespace SqlExecution

variable {σ α ι φ : Type}

open Session

/-- Some hook fails, of those that are come to. -/
inductive Round.Fails (round : Round σ ι α φ) : List ι → α → Scene σ → φ → Prop where
  | here {i : ι} {rest : List ι} {a : α} {failure : φ} {scene : Scene σ}
      (goes : round.stops scene = .ok ()) (fails : (round.hook i a scene).1 = .error failure) :
      Fails round (i :: rest) a scene failure
  | later {i : ι} {rest : List ι} {a b : α} {failure : φ} {scene scene' : Scene σ}
      (goes : round.stops scene = .ok ()) (passes : round.hook i a scene = (.ok b, scene'))
      (fails : Fails round rest b scene' failure) : Fails round (i :: rest) a scene failure

theorem Relay.stopped_or_fails {round : Round σ ι α φ} {is : List ι} {a : α} {o : Except φ α}
    {ms : List (Moment σ)} {scene last : Scene σ} (relay : Relay round is a scene ms o last) :
    ∀ failure, o = .error failure →
      round.stops last = .error failure ∨ round.Fails is a scene failure := by
  induction relay with
  | done => exact fun _ ends => by cases ends
  | stopped stops =>
    rintro _ ⟨⟩
    exact .inl stops
  | failed goes fails =>
    rintro _ ⟨⟩
    exact .inr (.here goes (congrArg Prod.fst fails))
  | passed goes passes _ ih =>
    intro failure ends
    exact (ih failure ends).imp id (.later goes passes)

theorem Relay.not_supplied_by_nobody {round : Round σ ι (Interception α) φ} {ms : List (Moment σ)}
    {scene last : Scene σ} {a : α} :
    ¬ Relay round [] .noResult scene ms (.ok (.hasResult a)) last := by
  rintro ⟨⟩

/-- What the executing hooks leave an execution with, and the event that is raised about it. -/
structure Offer (σ α : Type) where
  result : Interception α
  raised : Option (Logger σ × CommandEvent)

namespace Statement

def offering (shape : Shape σ α) (mode : Mode) (logger : Option (Logger σ)) (info : ExecutionInfo)
    (c : NativeCommand) : Attempt σ (Offer σ α) := do
  Attempt.checkpoint mode
  match logger with
  | none => return ⟨.noResult, none⟩
  | some logger =>
    let event ← Attempt.lift info.event
    return ⟨← logger.executing mode shape.around shape.payload c event, some (logger, event)⟩

/-- The result that was offered, or else the driver's. -/
def supplying (shape : Shape σ α) (mode : Mode) (c : NativeCommand) (offer : Offer σ α) :
    Attempt σ (Reached σ α) :=
  match offer.result with
  | .hasResult a => return ⟨a, false, offer.raised⟩
  | .noResult => do
    Attempt.checkpoint mode
    return ⟨← Attempt.call (.execute shape.method c mode) mode (shape.native c), true, offer.raised⟩

theorem reach_apply (shape : Shape σ α) (mode : Mode) (logger : Option (Logger σ))
    (info : ExecutionInfo) (c : NativeCommand) (s : Session σ) :
    (reach shape mode logger info c).observe s =
      (offering shape mode logger info c >>= supplying shape mode c).observe s := by
  -- Without hooks the context is looked at once and not twice, which makes no difference.
  unfold reach offering
  rw [bind_assoc, Attempt.observe_bind_apply, Attempt.observe_bind_apply, checkpoint_apply]
  cases looked : mode.checkpoint s.scene.cancelled with
  | error failure => rfl
  | ok _ =>
    cases logger with
    | none =>
      have again : (Attempt.checkpoint mode).observe s = (.ok ⟨⟩, s) := by
        rw [checkpoint_apply, looked]
      change _ = (do
        Attempt.checkpoint mode
        return ⟨← Attempt.call (.execute shape.method c mode) mode (shape.native c), true, none⟩ :
          Attempt σ (Reached σ α)).observe s
      rw [Attempt.observe_bind_ok again]
    | some l =>
      dsimp only
      rw [bind_assoc, Attempt.observe_lift_bind, Attempt.observe_lift_bind, bind_assoc,
        Attempt.observe_bind_apply, Attempt.observe_bind_apply]
      rcases (l.executing mode shape.around shape.payload c (info.event s).1).observe
        (info.event s).2 with ⟨failure | offered, t⟩
      · rfl
      · cases offered <;> rfl

theorem run_apply (shape : Shape σ α) (mode : Mode) (logger : Option (Logger σ))
    (info : ExecutionInfo) (c : NativeCommand) (s : Session σ) :
    (run shape mode logger info c).observe s =
      (offering shape mode logger info c >>= fun offer =>
        supplying shape mode c offer >>= conclude shape mode c).observe s := by
  rw [run_eq, ← bind_assoc, Attempt.observe_bind_apply, Attempt.observe_bind_apply, reach_apply]

section Offering

variable {shape : Shape σ α} {mode : Mode} {logger : Option (Logger σ)} {info : ExecutionInfo}
  {c : NativeCommand} {s t : Session σ} {failure : Failure}

theorem offering_stops (plain : shape.Plain)
    (stops : (offering shape mode logger info c).observe s = (.error failure, t)) :
    mode.checkpoint t.scene.cancelled = .error failure ∨
      ∃ l ∈ logger, (shape.execution mode c (info.event s).1).before.Fails l.commandInterceptors
        .noResult s.scene failure := by
  unfold offering at stops
  rw [Attempt.observe_bind_apply, checkpoint_apply] at stops
  cases looked : mode.checkpoint s.scene.cancelled with
  | error halt =>
    rw [looked] at stops
    cases stops
    exact .inl looked
  | ok _ =>
    rw [looked] at stops
    cases logger with
    | none => cases stops
    | some l =>
      dsimp only at stops
      obtain ⟨commandId, u, identifies, unnoticed⟩ := info.event_apply s
      rw [Attempt.observe_lift_bind, identifies, Attempt.observe_bind_apply] at stops
      obtain ⟨ms, relays⟩ := @executing_relays σ α shape mode c plain l (info.eventAs commandId) u
      rcases executes :
        (l.executing mode shape.around shape.payload c (info.eventAs commandId)).observe u
        with ⟨halt | offered, v⟩
      all_goals
        rw [executes] at stops relays
        cases stops
      rw [identifies, ← unnoticed.scene]
      exact (relays.relay.stopped_or_fails failure rfl).imp id fun fails => ⟨l, rfl, fails⟩

theorem offered_by_hearer (plain : shape.Plain) {offer : Offer σ α} {a : α}
    (offers : (offering shape mode logger info c).observe s = (.ok offer, t))
    (supplied : offer.result = .hasResult a) :
    ∃ l event i rest, offer.raised = some (l, event) ∧ l.commandInterceptors = i :: rest := by
  obtain ⟨_, u, _, offers⟩ := Attempt.ok_of_bind_ok offers
  cases logger with
  | none =>
    cases offers
    cases supplied
  | some l =>
    obtain ⟨event, u, _, offers⟩ := Attempt.ok_of_bind_ok offers
    obtain ⟨offered, v, executes, offers⟩ := Attempt.ok_of_bind_ok offers
    cases offers
    obtain rfl : offered = .hasResult a := supplied
    obtain ⟨ms, relays⟩ := @executing_relays σ α shape mode c plain l event u
    rw [executes] at relays
    cases hearers : l.commandInterceptors with
    | nil =>
      rw [hearers] at relays
      exact absurd relays.relay Relay.not_supplied_by_nobody
    | cons i rest => exact ⟨l, event, i, rest, rfl, hearers⟩

/-- After an offer in a context that is cancelled by then, the execution stops, and nothing more of
it reaches the driver or an interceptor. -/
theorem run_of_offered (plain : shape.Plain) {offer : Offer σ α}
    (offers : (offering shape mode logger info c).observe s = (.ok offer, t))
    (looked : mode.checkpoint t.scene.cancelled = .error failure) :
    ((run shape mode logger info c).observe s).1 = .error failure ∧
      Hides .reached t ((run shape mode logger info c).observe s).2 := by
  have stopped : (Attempt.checkpoint mode).observe t = (.error failure, t) := by
    rw [checkpoint_apply, looked]
  rw [run_apply, Attempt.observe_bind_ok offers, supplying]
  cases supplied : offer.result with
  | noResult =>
    rw [Attempt.observe_bind_error (Attempt.observe_bind_error stopped _)]
    exact ⟨rfl, Law.refl t⟩
  | hasResult a =>
    obtain ⟨l, event, i, rest, raised, hearers⟩ := offered_by_hearer plain offers supplied
    obtain ⟨ms, relays⟩ := @executed_relays σ α shape mode c plain l event a t
    dsimp only
    rw [pure_bind, conclude, raised]
    dsimp only
    generalize (l.executed mode shape.around shape.payload c event a).observe t = concludes
      at relays ⊢
    rw [hearers] at relays
    obtain ⟨o, u⟩ := concludes
    obtain ⟨relay, shows⟩ := relays
    dsimp only at relay
    generalize u.scene = last at relay
    cases relay with
    | stopped stops =>
      cases stops.symm.trans looked
      exact ⟨rfl, shows⟩
    | failed goes _ => cases goes.symm.trans looked
    | passed goes _ _ => cases goes.symm.trans looked

end Offering

variable [Driver σ]

/-- An execution up to what its executing hooks offer. -/
def approaching (shape : Shape σ α) (s : Statement) (mode : Mode) (r : Request σ) :
    Attempt σ (Offer σ α) := do
  let (setting, c, _) ← s.opening shape.method mode r
  offering shape mode setting.logger setting.info c

/-- Before an execution asks the driver to execute, a hook, the driver or the binding fails. -/
inductive Fails (shape : Shape σ α) (s : Statement) (mode : Mode) (r : Request σ)
    (start : Session σ) : Failure → Prop where
  | command {setting : Setting σ} {failure : Failure} {t u : Session σ}
      (enters : (s.enter shape.method mode r).observe start = (.ok setting, t))
      (fails : (s.equipped r setting.info).observe t = (.error failure, u)) :
      Fails shape s mode r start failure
  | connection {setting : Setting σ} {c : NativeCommand} {failure : Failure} {t u v : Session σ}
      (enters : (s.enter shape.method mode r).observe start = (.ok setting, t))
      (equips : (s.equipped r setting.info).observe t = (.ok c, u))
      (goes : mode.checkpoint u.scene.cancelled = .ok ())
      (fails : (r.connection.acquire mode).observe u = (.error failure, v)) :
      Fails shape s mode r start failure
  | hook {setting : Setting σ} {c : NativeCommand} {opened : Bool} {failure : Failure}
      {t : Session σ} {l : Logger σ}
      (opens : (s.opening shape.method mode r).observe start = (.ok (setting, c, opened), t))
      (raised : setting.logger = some l)
      (fails : (shape.execution mode c (setting.info.event t).1).before.Fails l.commandInterceptors
        .noResult t.scene failure) :
      Fails shape s mode r start failure

end Statement

end SqlExecution
