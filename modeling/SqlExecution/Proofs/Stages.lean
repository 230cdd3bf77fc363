import SqlExecution.Proofs.Course

/-! The stages of an execution. Its steps form a straight line here: each belongs to a stage, the
first that fails halts the line, and nothing is released. An execution is this line, and where it
halts with a command in hand, the command is abandoned. -/

namespace SqlExecution

variable {σ α β : Type}

/-- The steps of an execution, in order. -/
inductive Stage where
  | validation
  | entry
  | creating
  | requesting
  | created
  | binding
  | opening
  | starting
  | executing
  | calling
  | native
  | executed
  | buffering
  | disposing
  | closing
  deriving DecidableEq, Repr

namespace Stage

/-- The stages that make a command ready. -/
def prepares : Stage → Bool
  | creating => true
  | requesting => true
  | created => true
  | binding => true
  | _ => false

/-- The stages that are under the open of the execution, up to the executed event. -/
def opened : Stage → Bool
  | starting => true
  | executing => true
  | calling => true
  | native => true
  | executed => true
  | _ => false

/-- The stages that have a command which is abandoned if they fail. -/
def commanded : Stage → Bool
  | created => true
  | binding => true
  | opening => true
  | stage => stage.opened

theorem prepares_of_opened {stage : Stage} (h : stage.opened = true) : stage.prepares = false := by
  cases stage <;> first | rfl | cases h

end Stage

/-- A step that did not succeed, and the native command that is abandoned then, if there is one. -/
structure Halt where
  stage : Stage
  failure : Failure
  command : Option NativeCommand

abbrev Staged (σ : Type) := ExceptT Halt (Engine σ)

theorem mapError_ok {ε ε' : Type} (f : ε → ε') (a : α) :
    Except.mapError f (.ok a) = .ok a := rfl

theorem mapError_error {ε ε' : Type} (f : ε → ε') (e : ε) :
    Except.mapError f (.error e : Except ε α) = .error (f e) := rfl

namespace Staged

def observe (m : Staged σ α) : Engine σ (Except Halt α) := m.run

def lift (m : Engine σ α) : Staged σ α := ExceptT.lift m

/-- The computation without its stages. -/
def forget (m : Staged σ α) : Attempt σ α :=
  ExceptT.mk ((fun o => o.mapError Halt.failure) <$> m.observe)

theorem observe_bind_apply (m : Staged σ α) (f : α → Staged σ β) (s : Session σ) :
    (m >>= f).observe s =
      match m.observe s with
      | (.ok a, t) => (f a).observe t
      | (.error halt, t) => (.error halt, t) := by
  change (match m s with | (a, s) => ExceptT.bindCont f a s) = _
  rcases h : m s with ⟨_ | _, _⟩ <;> simp [observe, ExceptT.run, ExceptT.bindCont, h]

theorem observe_lift_bind (m : Engine σ α) (f : α → Staged σ β) (s : Session σ) :
    (lift m >>= f).observe s = (f (m s).1).observe (m s).2 := observe_bind_apply _ _ _

theorem observe_get_bind (f : Session σ → Staged σ β) (s : Session σ) :
    ((get : Staged σ (Session σ)) >>= f).observe s = (f s).observe s := observe_bind_apply _ _ _

theorem forget_apply (m : Staged σ α) (s : Session σ) :
    m.forget.observe s = ((m.observe s).1.mapError Halt.failure, (m.observe s).2) := rfl

theorem forget_bind (m : Staged σ α) (f : α → Staged σ β) :
    (m >>= f).forget = m.forget >>= fun a => (f a).forget := by
  funext s
  change (m >>= f).forget.observe s = (m.forget >>= fun a => (f a).forget).observe s
  rw [forget_apply, observe_bind_apply, Attempt.observe_bind_apply, forget_apply]
  rcases m.observe s with ⟨halt | a, t⟩ <;> rfl

@[simp] theorem forget_pure (a : α) : (pure a : Staged σ α).forget = pure a := rfl

@[simp] theorem forget_lift (m : Engine σ α) : (lift m).forget = Attempt.lift m := rfl

@[simp] theorem forget_get : (get : Staged σ (Session σ)).forget = get := rfl

/-- Where the computation halts, it is like this. -/
def HaltsOnly (P : Halt → Prop) (m : Staged σ α) : Prop :=
  ∀ s halt t, m.observe s = (.error halt, t) → P halt

variable {P Q : Halt → Prop}

theorem HaltsOnly.mono (weaker : ∀ halt, P halt → Q halt) {m : Staged σ α} (h : HaltsOnly P m) :
    HaltsOnly Q m := fun s halt t halts => weaker halt (h s halt t halts)

theorem HaltsOnly.bind {m : Staged σ α} {f : α → Staged σ β} (first : HaltsOnly P m)
    (rest : ∀ a, HaltsOnly P (f a)) : HaltsOnly P (m >>= f) := by
  intro s halt t halts
  rw [observe_bind_apply] at halts
  rcases here : m.observe s with ⟨halt' | a, u⟩
  all_goals rw [here] at halts
  · cases halts
    exact first s _ _ here
  · exact rest a u halt t halts

theorem haltsOnly_pure (a : α) : HaltsOnly P (pure a : Staged σ α) := fun _ _ _ halts => by
  cases halts

theorem haltsOnly_lift (m : Engine σ α) : HaltsOnly P (lift m) := fun _ _ _ halts => by cases halts

theorem haltsOnly_get : HaltsOnly P (get : Staged σ (Session σ)) := fun _ _ _ halts => by
  cases halts

end Staged

/-- A step in a stage, with the command that is there. -/
def Attempt.during (stage : Stage) (command : Option NativeCommand) (m : Attempt σ α) :
    Staged σ α :=
  ExceptT.mk ((fun o => o.mapError fun failure => ⟨stage, failure, command⟩) <$> m.observe)

namespace Staged

variable {P : Halt → Prop}

theorem during_apply (stage : Stage) (command : Option NativeCommand) (m : Attempt σ α)
    (s : Session σ) :
    (m.during stage command).observe s =
      ((m.observe s).1.mapError fun failure => ⟨stage, failure, command⟩, (m.observe s).2) := rfl

@[simp] theorem forget_during (stage : Stage) (command : Option NativeCommand) (m : Attempt σ α) :
    (m.during stage command).forget = m := by
  funext s
  change (m.during stage command).forget.observe s = m.observe s
  rw [forget_apply, during_apply]
  rcases m.observe s with ⟨failure | a, t⟩ <;> rfl

theorem haltsOnly_during {stage : Stage} {command : Option NativeCommand} (m : Attempt σ α)
    (like : ∀ failure, P ⟨stage, failure, command⟩) : HaltsOnly P (m.during stage command) := by
  intro s halt t halts
  rw [during_apply] at halts
  rcases here : m.observe s with ⟨failure | a, u⟩
  all_goals rw [here] at halts
  · cases halts
    exact like failure
  · cases halts

end Staged

namespace Halt

/-- Whoever hears of the failure. Before the command is ready that is also who hears of its creation
only. -/
def listener (halt : Halt) (r : Request σ) (start : Session σ) : Option (Logger σ) :=
  if halt.stage.prepares then r.reporting start
  else r.logger.filter (·.raisesExecute start.traceLimit)

variable [Driver σ]

/-- A command that is there is abandoned. -/
def leave (halt : Halt) (mode : Mode) (logger : Option (Logger σ)) (info : ExecutionInfo)
    (opened : Bool) (s : Session σ) : Session σ :=
  match halt.command with
  | none => s
  | some c => (Statement.abandon mode logger info c halt.failure.toError opened s).2

/-- A computation that halts ends with the failure that it halts with, after what is then left to
do. -/
def settle (leave : Halt → Session σ → Session σ) :
    Except Halt α × Session σ → Outcome α × Session σ
  | (.ok a, s) => (.ok a, s)
  | (.error halt, s) => (.error halt.failure, leave halt s)

omit [Driver σ] in
theorem settle_fst (leave : Halt → Session σ → Session σ) (x : Except Halt α × Session σ) :
    (settle leave x).1 = x.1.mapError Halt.failure := by
  rcases x with ⟨halt | a, s⟩ <;> rfl

theorem settle_obeys {R : Session σ → Session σ → Prop} [Session.Law R] {mode : Mode}
    (abandons : ∀ logger info c e opened,
      Engine.Obeys R (Statement.abandon mode logger info c e opened))
    (logger : Halt → Option (Logger σ)) (info : ExecutionInfo) (opened : Halt → Bool)
    (x : Except Halt α × Session σ) :
    R x.2 (settle (fun halt => halt.leave mode (logger halt) info (opened halt)) x).2 := by
  rcases x with ⟨halt | a, s⟩
  · dsimp only [settle, leave]
    split
    · exact Session.Law.refl s
    · exact abandons _ _ _ _ _ s
  · exact Session.Law.refl s

end Halt

namespace Statement

def entering (s : Statement) (method : Method) (mode : Mode) (r : Request σ) :
    Staged σ (Setting σ) := do
  (Attempt.ofResult (s.validate r.values)).during .validation none
  (Attempt.checkpoint mode).during .entry none
  let info := r.info (← Staged.lift Engine.newTicket) method mode
  return ⟨info, ← Staged.lift (Engine.raising Logger.raisesExecute r.logger)⟩

/-- The result of a command, from the executing hooks or else from the driver, as the executed hooks
left it. -/
def running (shape : Shape σ α) (mode : Mode) (logger : Option (Logger σ)) (info : ExecutionInfo)
    (c : NativeCommand) : Staged σ α := do
  let native := (Attempt.call (.execute shape.method c mode) mode (shape.native c)).during .native c
  (Attempt.checkpoint mode).during .starting c
  match logger with
  | none => native
  | some logger =>
    let event ← Staged.lift info.event
    let result ←
      match ← (logger.executing mode shape.around shape.payload c event).during .executing c with
      | .hasResult a => pure a
      | .noResult => do
        (Attempt.checkpoint mode).during .calling c
        native
    (logger.executed mode shape.around shape.payload c event result).during .executed c

theorem entering_forget (s : Statement) (method : Method) (mode : Mode) (r : Request σ) :
    (s.entering method mode r).forget = s.enter method mode r := by
  simp only [entering, enter, Staged.forget_bind, Staged.forget_during, Staged.forget_lift,
    Staged.forget_pure]

theorem running_forget (shape : Shape σ α) (mode : Mode) (logger : Option (Logger σ))
    (info : ExecutionInfo) (c : NativeCommand) :
    (running shape mode logger info c).forget = run shape mode logger info c := by
  cases logger with
  | none => simp [running, run, Staged.forget_bind]
  | some l =>
    simp only [running, run, Staged.forget_bind, Staged.forget_during, Staged.forget_lift]
    congr 1; funext _; congr 1; funext event; congr 1; funext offered
    cases offered <;> simp [Staged.forget_bind]

variable [Driver σ]

/-- A command from the creating hooks or else from the driver, as the created hooks left it. -/
def requesting (info : ExecutionInfo) : Option (Logger σ) → Staged σ NativeCommand
  | none => (create info).during .requesting none
  | some logger => do
    let event ← Staged.lift info.event
    let c ← match ← (logger.commandCreating event).during .creating none with
      | .hasResult c => pure c
      | .noResult => (create info).during .requesting none
    let (c, hooked) ← Staged.lift (logger.commandCreated event c)
    (Attempt.ofResult hooked).during .created c
    return c

def preparing (s : Statement) (r : Request σ) (info : ExecutionInfo) : Staged σ NativeCommand := do
  let limit := (← get).traceLimit
  let c ← requesting info (r.logger.filter (·.raisesCreate limit))
  let c := (c.configure s.text ((← get).connections r.connection)).addParameters
    (s.bind r.values).added
  (Attempt.ofResult (s.bind r.values).result).during .binding c
  return c

/-- An execution up to the executed event, with nothing released. -/
def stages (shape : Shape σ α) (s : Statement) (mode : Mode) (r : Request σ) :
    Staged σ (Execution α) := do
  let setting ← s.entering shape.method mode r
  let c ← s.preparing r setting.info
  let _ ← (openFor mode r.connection).during .opening c
  return ⟨← running shape mode setting.logger setting.info c, c, setting.info⟩

/-- How asking for a command ends, with the stage that it halts at. -/
inductive Requested : Outcome (NativeCommand × Result Unit) → Except Halt NativeCommand → Prop where
  | made (c : NativeCommand) : Requested (.ok (c, .ok ())) (.ok c)
  | spoiled (c : NativeCommand) (e : Error) :
      Requested (.ok (c, .error e)) (.error ⟨.created, .error e, c⟩)
  | refused (failure : Failure) : Requested (.error failure) (.error ⟨.creating, failure, none⟩)
  | denied (failure : Failure) : Requested (.error failure) (.error ⟨.requesting, failure, none⟩)

theorem requesting_requested (info : ExecutionInfo) (logger : Option (Logger σ)) (s : Session σ) :
    ∃ o, (requesting info logger).observe s = (o, ((obtain info logger).observe s).2) ∧
      Requested ((obtain info logger).observe s).1 o := by
  cases logger with
  | none =>
    unfold obtain requesting
    rw [Attempt.observe_bind_apply, Staged.during_apply]
    rcases (create info : Attempt σ _).observe s with ⟨failure | c, t⟩
    · exact ⟨_, rfl, .denied failure⟩
    · exact ⟨_, rfl, .made c⟩
  | some l =>
    have concludes : ∀ event c u, ∃ o, (do
          let (c, hooked) ← Staged.lift (l.commandCreated event c)
          (Attempt.ofResult hooked).during .created (some c)
          return c : Staged σ NativeCommand).observe u = (o, (l.commandCreated event c u).2) ∧
        Requested (.ok (l.commandCreated event c u).1) o := by
      intro event c u
      rw [Staged.observe_lift_bind]
      rcases l.commandCreated event c u with ⟨⟨d, e | _⟩, t⟩
      · exact ⟨_, rfl, .spoiled d e⟩
      · exact ⟨_, rfl, .made d⟩
    unfold obtain requesting
    rw [Attempt.observe_lift_bind, Staged.observe_lift_bind, Attempt.observe_bind_apply,
      Staged.observe_bind_apply, Staged.during_apply]
    generalize (info.event s).1 = event
    rcases (l.commandCreating event).observe (info.event s).2 with ⟨failure | offered, t⟩
    · exact ⟨_, rfl, .refused failure⟩
    · cases offered with
      | hasResult c => exact concludes event c t
      | noResult =>
        dsimp only [mapError_ok, mapError_error]
        rw [Attempt.observe_bind_apply, Staged.observe_bind_apply, Staged.during_apply]
        rcases (create info : Attempt σ _).observe t with ⟨failure | c, u⟩
        · exact ⟨_, rfl, .denied failure⟩
        · exact concludes event c u

theorem prepare_staged (s : Statement) (mode : Mode) (r : Request σ) (info : ExecutionInfo)
    (start : Session σ) :
    (s.prepare mode r info).observe start =
      Halt.settle (fun halt => halt.leave mode (r.reporting start) info false)
        ((s.preparing r info).observe start) := by
  obtain ⟨o, requests, requested⟩ :=
    requesting_requested info (r.logger.filter (·.raisesCreate start.traceLimit)) start
  unfold prepare preparing
  rw [Attempt.observe_get_bind, Staged.observe_get_bind, Attempt.observe_bind_apply,
    Staged.observe_bind_apply, requests]
  generalize (obtain info (r.logger.filter (·.raisesCreate start.traceLimit))).observe start = asked
    at requested ⊢
  obtain ⟨answer, t⟩ := asked
  cases requested with
  | refused failure => rfl
  | denied failure => rfl
  | spoiled c e => rfl
  | made c =>
    dsimp only
    rw [Staged.observe_get_bind, Staged.observe_bind_apply, Staged.during_apply]
    cases bound : (s.bind r.values).result with
    | error e =>
      dsimp only
      rw [Attempt.observe_get_bind, Attempt.observe_bind_error (giveUp_apply _ _ _ _ _ _ t)]
      rfl
    | ok _ => rfl

theorem preparing_forget (s : Statement) (r : Request σ) (info : ExecutionInfo) :
    (s.preparing r info).forget = s.equipped r info := by
  funext start
  change (s.preparing r info).forget.observe start = (s.equipped r info).observe start
  obtain ⟨o, requests, requested⟩ :=
    requesting_requested info (r.logger.filter (·.raisesCreate start.traceLimit)) start
  have asked : (yielded r info).observe start =
      (obtain info (r.logger.filter (·.raisesCreate start.traceLimit))).observe start :=
    Attempt.observe_get_bind _ _
  unfold preparing equipped
  rw [Staged.forget_apply, Staged.observe_get_bind, Staged.observe_bind_apply, requests,
    Attempt.observe_bind_apply, asked]
  generalize (obtain info (r.logger.filter (·.raisesCreate start.traceLimit))).observe start = asked
    at requested ⊢
  obtain ⟨answer, t⟩ := asked
  cases requested with
  | refused failure => rfl
  | denied failure => rfl
  | spoiled c e => rfl
  | made c =>
    dsimp only
    rw [Staged.observe_get_bind, Staged.observe_bind_apply, Staged.during_apply,
      Attempt.observe_get_bind]
    dsimp only [equip]
    cases (s.bind r.values).result <;> rfl

theorem equipped_eq (s : Statement) (r : Request σ) (info : ExecutionInfo) (start : Session σ) :
    (s.equipped r info).observe start =
      (((s.preparing r info).observe start).1.mapError Halt.failure,
        ((s.preparing r info).observe start).2) := by
  rw [← preparing_forget, Staged.forget_apply]

theorem prepare_outcome (s : Statement) (mode : Mode) (r : Request σ) (info : ExecutionInfo)
    (start : Session σ) :
    ((s.prepare mode r info).observe start).1 = ((s.equipped r info).observe start).1 := by
  rw [prepare_staged, equipped_eq, Halt.settle_fst]

theorem prepare_after {R : Session σ → Session σ → Prop} [Session.Law R] {mode : Mode}
    (abandons : ∀ logger info c e opened, Engine.Obeys R (abandon mode logger info c e opened))
    (s : Statement) (r : Request σ) (info : ExecutionInfo) (start : Session σ) :
    R ((s.equipped r info).observe start).2 ((s.prepare mode r info).observe start).2 := by
  rw [prepare_staged, equipped_eq]
  exact Halt.settle_obeys abandons (fun _ => r.reporting start) info (fun _ => false) _

/-- The straight line without its stages. -/
def performing (shape : Shape σ α) (s : Statement) (mode : Mode) (r : Request σ) :
    Attempt σ (Execution α) := do
  let (setting, c, _) ← s.opening shape.method mode r
  return ⟨← run shape mode setting.logger setting.info c, c, setting.info⟩

theorem stages_forget (shape : Shape σ α) (s : Statement) (mode : Mode) (r : Request σ) :
    (s.stages shape mode r).forget = s.performing shape mode r := by
  simp only [stages, performing, opening, Staged.forget_bind, Staged.forget_during,
    Staged.forget_pure, entering_forget, preparing_forget, running_forget, bind_assoc, pure_bind]

section Halts

open Staged

omit [Driver σ] in
theorem entering_halts (s : Statement) (method : Method) (mode : Mode) (r : Request σ) :
    HaltsOnly (fun halt => halt.stage.commanded = false ∧ halt.command = none)
      (s.entering method mode r) :=
  (haltsOnly_during _ fun _ => ⟨rfl, rfl⟩).bind fun _ =>
    (haltsOnly_during _ fun _ => ⟨rfl, rfl⟩).bind fun _ =>
      (haltsOnly_lift _).bind fun _ => (haltsOnly_lift _).bind fun _ => haltsOnly_pure _

theorem preparing_halts (s : Statement) (r : Request σ) (info : ExecutionInfo) :
    HaltsOnly (fun halt => halt.stage.prepares = true ∧ halt.stage.opened = false ∧
      halt.command.isSome = halt.stage.commanded) (s.preparing r info) := by
  have requests : ∀ logger, HaltsOnly (fun halt => halt.stage.prepares = true ∧
      halt.stage.opened = false ∧ halt.command.isSome = halt.stage.commanded)
      (requesting info logger : Staged σ NativeCommand) := by
    intro logger start halt t halts
    obtain ⟨o, requests, requested⟩ := requesting_requested info logger start
    rw [requests] at halts
    cases halts
    generalize ((obtain info logger).observe start).1 = answer at requested
    cases requested <;> exact ⟨rfl, rfl, rfl⟩
  refine haltsOnly_get.bind fun s => (requests _).bind fun c => haltsOnly_get.bind fun s => ?_
  exact (haltsOnly_during _ fun _ => ⟨rfl, rfl, rfl⟩).bind fun _ => haltsOnly_pure _

omit [Driver σ] in
theorem running_halts (shape : Shape σ α) (mode : Mode) (logger : Option (Logger σ))
    (info : ExecutionInfo) (c : NativeCommand) :
    HaltsOnly (fun halt => halt.stage.opened = true ∧ halt.command = some c)
      (running shape mode logger info c) := by
  refine (haltsOnly_during _ fun _ => ⟨rfl, rfl⟩).bind fun _ => ?_
  cases logger with
  | none => exact haltsOnly_during _ fun _ => ⟨rfl, rfl⟩
  | some l =>
    refine (haltsOnly_lift _).bind fun event => ?_
    refine (haltsOnly_during _ fun _ => ⟨rfl, rfl⟩).bind fun offered => ?_
    cases offered with
    | hasResult a => exact haltsOnly_during _ fun _ => ⟨rfl, rfl⟩
    | noResult =>
      refine (haltsOnly_during _ fun _ => ⟨rfl, rfl⟩).bind fun _ => ?_
      exact (haltsOnly_during _ fun _ => ⟨rfl, rfl⟩).bind fun _ =>
        haltsOnly_during _ fun _ => ⟨rfl, rfl⟩

end Halts

/-- An execution is its straight line, and what it leaves if that halts. -/
theorem execute_staged (shape : Shape σ α) (s : Statement) (mode : Mode) (r : Request σ)
    (start : Session σ) :
    (s.execute shape mode r).observe start =
      Halt.settle (fun halt => halt.leave mode (halt.listener r start)
          (r.info start.nextTicket shape.method mode) halt.stage.opened)
        ((s.stages shape mode r).observe start) := by
  rw [execute_eq]
  unfold stages
  rw [Attempt.observe_bind_apply, Staged.observe_bind_apply, ← entering_forget, Staged.forget_apply]
  rcases enters : (s.entering shape.method mode r).observe start with ⟨halt | setting, t⟩
  · have bare := (entering_halts s shape.method mode r start halt t enters).2
    simp [Halt.settle, Halt.leave, bare, mapError_error]
  · have entered : (s.enter shape.method mode r).observe start = (.ok setting, t) := by
      rw [← entering_forget, Staged.forget_apply, enters]
      rfl
    obtain ⟨info, logger, rfl⟩ := enter_ok entered
    dsimp only [mapError_ok, mapError_error]
    rw [Attempt.observe_bind_apply, Staged.observe_bind_apply, prepare_staged]
    rcases prepares : (s.preparing r setting.info).observe _ with ⟨halt | c, u⟩
    · obtain ⟨preparing, early, _⟩ := preparing_halts s r setting.info _ halt u prepares
      simp [Halt.settle, Halt.listener, preparing, early, info, Request.reporting]
    · dsimp only [Halt.settle]
      rw [Attempt.observe_outcome_bind, Staged.observe_bind_apply, Staged.during_apply]
      rcases (openFor mode r.connection).observe u with ⟨failure | opened, v⟩
      · have listens : (⟨.opening, failure, some c⟩ : Halt).listener r start = setting.logger :=
          logger.symm
        dsimp only [mapError_ok, mapError_error]
        rw [Attempt.observe_bind_error (giveUp_apply _ _ _ _ _ _ v), listens, ← info]
        rfl
      · dsimp only [mapError_ok, mapError_error]
        rw [Attempt.observe_outcome_bind, ← running_forget, Staged.forget_apply,
          Staged.observe_bind_apply]
        rcases performs : (running shape mode setting.logger setting.info c).observe v with
          ⟨halt | output, w⟩
        · obtain ⟨late, command⟩ := running_halts shape mode _ _ c v halt w performs
          have listens : halt.listener r start = setting.logger := by
            rw [Halt.listener, Stage.prepares_of_opened late, logger]
            rfl
          dsimp only [mapError_ok, mapError_error, Halt.settle, Halt.leave]
          rw [listens, late, command, ← info, giveUp_apply]
        · rfl

theorem performing_eq (shape : Shape σ α) (s : Statement) (mode : Mode) (r : Request σ)
    (start : Session σ) :
    (s.performing shape mode r).observe start =
      ((((s.stages shape mode r).observe start).1.mapError Halt.failure),
        ((s.stages shape mode r).observe start).2) := by
  rw [← stages_forget, Staged.forget_apply]

theorem performing_of_unopened {shape : Shape σ α} {s : Statement} {mode : Mode} {r : Request σ}
    {start t : Session σ} {failure : Failure}
    (stops : (s.opening shape.method mode r).observe start = (.error failure, t)) :
    (s.performing shape mode r).observe start = (.error failure, t) :=
  Attempt.observe_bind_error stops _

theorem performing_of_opened {shape : Shape σ α} {s : Statement} {mode : Mode} {r : Request σ}
    {start t : Session σ} {setting : Setting σ} {c : NativeCommand} {opened : Bool}
    (opens : (s.opening shape.method mode r).observe start = (.ok (setting, c, opened), t)) :
    (s.performing shape mode r).observe start =
      (((run shape mode setting.logger setting.info c).observe t).1.map (⟨·, c, setting.info⟩),
        ((run shape mode setting.logger setting.info c).observe t).2) := by
  unfold performing
  rw [Attempt.observe_bind_ok opens, Attempt.observe_bind_apply]
  rcases (run shape mode setting.logger setting.info c).observe t with ⟨_ | _, _⟩ <;> rfl

theorem execute_outcome (shape : Shape σ α) (s : Statement) (mode : Mode) (r : Request σ)
    (start : Session σ) :
    ((s.execute shape mode r).observe start).1 = ((s.performing shape mode r).observe start).1 := by
  rw [execute_staged, performing_eq, Halt.settle_fst]

theorem execute_of_performed {shape : Shape σ α} {s : Statement} {mode : Mode} {r : Request σ}
    {start v : Session σ} {execution : Execution α}
    (performs : (s.performing shape mode r).observe start = (.ok execution, v)) :
    (s.execute shape mode r).observe start = (.ok execution, v) := by
  rw [performing_eq] at performs
  rw [execute_staged]
  rcases staged : (s.stages shape mode r).observe start with ⟨halt | e, w⟩
  all_goals
    rw [staged] at performs
    cases performs
  rfl

theorem execute_after {R : Session σ → Session σ → Prop} [Session.Law R] {mode : Mode}
    (abandons : ∀ logger info c e opened, Engine.Obeys R (abandon mode logger info c e opened))
    (shape : Shape σ α) (s : Statement) (r : Request σ) (start : Session σ) :
    R ((s.performing shape mode r).observe start).2 ((s.execute shape mode r).observe start).2 := by
  rw [execute_staged, performing_eq]
  exact Halt.settle_obeys abandons (fun halt => halt.listener r start) _
    (fun halt => halt.stage.opened) _

end Statement

end SqlExecution
