import SqlExecution.Proofs.AgreeingValues
import SqlExecution.Proofs.Tandem.Commands
import SqlExecution.Scripted.Basic

/-! Values of parameters that are not told of. Where loggers hide them and interceptors pass
through, two runs that differ in values of the same shape write the same trace records and fail in
the same way, if the driver answers them alike. -/

namespace SqlExecution

variable {σ α : Type}

open Session

/-- Two acts that end with these and keep scenes alike. -/
def Act.Hand (scenes : Scene σ → Scene σ → Prop) (v v' : α) (a a' : Act σ α) : Prop :=
  Act.Alike scenes (fun x x' => x = v ∧ x' = v') a a'

namespace Act.Hand

variable {scenes : Scene σ → Scene σ → Prop} {v v' : α} {a a' : Act σ α}

theorem alike {V : α → α → Prop} (hands : Act.Hand scenes v v' a a') (value : V v v') :
    Act.Alike scenes V a a' := fun x x' same => by
  obtain ⟨⟨ends, ends'⟩, scenes⟩ := hands x x' same
  exact ⟨by rwa [ends, ends'], scenes⟩

theorem pure (v v' : α) : Act.Hand scenes v v' (Pure.pure v) (Pure.pure v') :=
  fun _ _ same => ⟨⟨rfl, rfl⟩, same⟩

end Act.Hand

namespace Tandem

/-- Two runs that may differ in their surroundings and their commands, and in which any event may be
raised. -/
def beside (scenes : Scene σ → Scene σ → Prop) (commands : NativeCommand → NativeCommand → Prop) :
    Tandem σ := ⟨scenes, commands, fun _ => True, fun _ => True, fun _ => True⟩

theorem beside_watches {scenes : Scene σ → Scene σ → Prop}
    {commands : NativeCommand → NativeCommand → Prop}
    (cancelled : ∀ {x x' : Scene σ}, scenes x x' → x'.cancelled = x.cancelled) :
    (beside scenes commands).Watches :=
  ⟨cancelled, fun _ _ _ => trivial, fun _ _ => trivial, fun _ _ => trivial, fun _ => trivial,
    fun _ => trivial, fun _ _ => ⟨trivial, trivial⟩⟩

/-- Hooks that hand on what they are given. -/
structure PassesAround (t : Tandem σ) (a : Around σ α) : Prop where
  executing {c c' : NativeCommand} (alike : t.commands c c') (event : CommandEvent)
    (r : Interception α) (mode : Mode) :
    Act.Hand t.scenes (.ok r) (.ok r) ((a.executing c event r).perform mode)
      ((a.executing c' event r).perform mode)
  executed {c c' : NativeCommand} (alike : t.commands c c') (event : CommandEvent) (r : α)
    (mode : Mode) :
    Act.Hand t.scenes (.ok r) (.ok r) ((a.executed c event r).perform mode)
      ((a.executed c' event r).perform mode)

/-- An interceptor that passes through what it is given. It may keep a record of its own, as long as
the surroundings of the two runs stay alike. -/
structure PassesThrough (t : Tandem σ) (i : CommandInterceptor σ) : Prop where
  creating (event : CommandEvent) {r r' : Interception NativeCommand}
    (alike : SameOffer t.commands r r') :
    Act.Hand t.scenes (.ok r) (.ok r') (i.creating event r) (i.creating event r')
  created (event : CommandEvent) {c c' : NativeCommand} (alike : t.commands c c') :
    Act.Hand t.scenes (c, .ok ()) (c', .ok ()) (i.created event c) (i.created event c')
  nonQuery : t.PassesAround i.nonQuery
  scalar : t.PassesAround i.scalar
  reader : t.PassesAround i.reader
  failed (mode : Mode) {c c' : NativeCommand} (alike : t.commands c c') (event : CommandEvent)
    (e : Error) : Act.Hand t.scenes () () (i.failed mode c event e) (i.failed mode c' event e)
  disposing (mode : Mode) {c c' : NativeCommand} (alike : t.commands c c') (event : CommandEvent)
    (d : Disposal) :
    Act.Hand t.scenes () () (i.disposing mode c event d) (i.disposing mode c' event d)

variable {t : Tandem σ}

theorem PassesAround.suits {a : Around σ α} (passes : t.PassesAround a) : t.SuitsAround a :=
  ⟨fun alike event r mode => (passes.executing alike event r mode).alike rfl,
    fun alike event r mode => (passes.executed alike event r mode).alike rfl⟩

theorem PassesThrough.suits {i : CommandInterceptor σ} (passes : t.PassesThrough i) :
    t.SuitsHooks i where
  creating event _ _ alike := (passes.creating event alike).alike alike
  created event _ _ alike := (passes.created event alike).alike ⟨alike, rfl⟩
  nonQuery := passes.nonQuery.suits
  scalar := passes.scalar.suits
  reader := passes.reader.suits
  failed mode _ _ alike event e := (passes.failed mode alike event e).alike rfl
  disposing mode _ _ alike event d := (passes.disposing mode alike event d).alike rfl

theorem passesAround_passThrough : t.PassesAround (Around.passThrough : Around σ α) where
  executing _ _ r _ := by
    simp only [Around.passThrough, Dual.perform_pure]
    exact .pure _ _
  executed _ _ r _ := by
    simp only [Around.passThrough, Dual.perform_pure]
    exact .pure _ _

theorem passesThrough_passThrough (name : String) : t.PassesThrough (.passThrough name) where
  creating _ _ _ _ := .pure _ _
  created _ _ _ _ := .pure _ _
  nonQuery := passesAround_passThrough
  scalar := passesAround_passThrough
  reader := passesAround_passThrough
  failed _ _ _ _ _ _ := .pure _ _
  disposing _ _ _ _ _ _ := .pure _ _

/-- Requests that differ in values of the same shape, with a logger that hides them. Binding the
values keeps commands alike, which is up to the driver's idea of it. -/
structure Agree (t : Tandem σ) (s : Statement) (r r' : Request σ) : Prop where
  same : r' = { r with values := r'.values }
  values : Option.Rel (Parameter.Values.Agree s.parameters) r.values r'.values
  binds {c c' : NativeCommand} (alike : t.commands c c') :
    t.commands (c.addParameters (s.bind r.values).added)
      (c'.addParameters (s.bind r'.values).added)
  hidden : ∀ l ∈ r.logger, l.options.sensitiveData = false
  passes : ∀ l ∈ r.logger, ∀ i ∈ l.commandInterceptors, t.PassesThrough i

theorem Agree.requests {s : Statement} {r r' : Request σ} (agree : t.Agree s r r')
    (upToValues : ∀ {c c' : NativeCommand}, t.commands c c' → c.UpToValues c') :
    t.Requests s r r' where
  same := agree.same
  validate := s.validate_agree agree.values
  result := (s.bind_agree agree.values).result
  added := agree.binds
  suits l member :=
    ⟨fun alike => (upToValues alike).text,
      fun alike => (upToValues alike).describe (agree.hidden l member),
      fun i is => (agree.passes l member i is).suits⟩

end Tandem

open Tandem

/-- A driver that answers two runs alike whose scenes and commands are so related, and that keeps
them so. The commands differ in nothing but the values of their parameters. -/
structure Driver.AnswersAlike [Driver σ] (scenes : Scene σ → Scene σ → Prop)
    (commands : NativeCommand → NativeCommand → Prop) : Prop where
  answers : (beside scenes commands).Answers
  cancelled {x x' : Scene σ} : scenes x x' → x'.cancelled = x.cancelled
  upToValues {c c' : NativeCommand} : commands c c' → c.UpToValues c'

/-- The scripted driver answers any two runs alike whose commands differ in nothing but the values
of their parameters, which it does not look at. -/
theorem Script.answersAlike :
    Driver.AnswersAlike (Eq : Scene Script → Scene Script → Prop) NativeCommand.UpToValues where
  cancelled same := by rw [same]
  upToValues alike := alike
  answers := answers_of_scenes rfl .refl (·.clear) (fun alike => alike.configure) fun alike => by
    have connection := alike.connection
    simp [Driver.executeNonQuery, Driver.executeScalar, Driver.executeReader, Driver.dispose,
      connection]

/-- A command is used twice, from the same session but for the surroundings, with values that agree
in shape where it is executed. Both times the same is traced, and the answers are the same: they
fail with the same errors, and readers differ in the values behind them only. -/
theorem Command.values_untold [Driver σ] {scenes : Scene σ → Scene σ → Prop}
    {commands : NativeCommand → NativeCommand → Prop}
    (driver : Driver.AnswersAlike scenes commands) {statement : Statement}
    {uses uses' : List (CommandUse σ)}
    (parallel : CommandUse.Parallel (beside scenes commands).Agree statement uses uses')
    {s : Session σ} {scene' : Scene σ} (alike : scenes s.scene scene') :
    let ends := Command.run uses ⟨statement, none⟩ s
    let ends' := Command.run uses' ⟨statement, none⟩ { s with scene := scene' }
    ends'.2.traces = ends.2.traces ∧
      List.Forall₂ (beside scenes commands).Replies ends.1.1 ends'.1.1 := by
  intro ends ends'
  have requests := parallel.mono fun _ _ _ agree => agree.requests driver.upToValues
  have meets : (beside scenes commands).Meets s { s with scene := scene' } :=
    ⟨alike, rfl, rfl, rfl, rfl, rfl, rfl, rfl, trivial⟩
  obtain ⟨⟨replies, _⟩, met⟩ := runs_uses (beside_watches driver.cancelled) driver.answers
    (fun _ => trivial) (c := ⟨statement, none⟩) ⟨rfl, .none⟩ requests _ _ meets
  exact ⟨met.traces, replies⟩

/-- An order is looked up by name, and again with half of a name, which cannot be bound. Who it is
of does not show. -/
theorem Command.values_untold_order :
    let statement : Statement := ⟨"SELECT total FROM orders WHERE id = @id AND name = @a || @b",
      [.of "id", .composite "name" [.of "a", .of "b"]]⟩
    let request (id : Int32) (name : List Value) : Request Script := {
      connection := ⟨0⟩
      values := some [("id", .int id), ("name", .array name)]
      logger := some ⟨{}, [.passThrough "audit"], []⟩
      detailedErrors := false }
    let uses (id : Int32) (first last : String) : List (CommandUse Script) := [
      .reader .async (request id [.text first, .text last]), .read .async, .getValue 0,
      .nonQuery .blocking (request id [.text first]), .dispose .async]
    let scene : Scene Script :=
      ⟨{ connections := fun _ => { sets := [⟨["total"], [[.int 3]]⟩] } }, none⟩
    let s : Session Script := { scene, traceLimit := some .trace }
    (Driver.AnswersAlike (Eq : Scene Script → Scene Script → Prop) NativeCommand.UpToValues ∧
      CommandUse.Parallel (beside Eq NativeCommand.UpToValues).Agree statement
        (uses 7 "Ada" "Lovelace") (uses 42 "Alan" "Turing") ∧ s.scene = scene) ∧
      let ends := Command.run (uses 7 "Ada" "Lovelace") ⟨statement, none⟩ s
      let ends' := Command.run (uses 42 "Alan" "Turing") ⟨statement, none⟩ { s with scene }
      ends'.2.traces = ends.2.traces ∧
        List.Forall₂ (beside Eq NativeCommand.UpToValues).Replies ends.1.1 ends'.1.1 := by
  intro statement request uses scene s
  have agree {id id' : Int32} {name name' : List Value} (values :
      Parameter.Values.Agree statement.parameters [("id", .int id), ("name", .array name)]
        [("id", .int id'), ("name", .array name')]) :
      (beside Eq NativeCommand.UpToValues).Agree statement (request id name) (request id' name') :=
    { same := rfl
      values := .some values
      binds := fun alike => alike.addParameters (Statement.bind_agree (.some values)).added
      hidden := fun l member => by
        cases member
        rfl
      passes := fun l member i is => by
        cases member
        cases List.mem_singleton.1 is
        exact passesThrough_passThrough "audit" }
  have parallel : CommandUse.Parallel (beside Eq NativeCommand.UpToValues).Agree statement
      (uses 7 "Ada" "Lovelace") (uses 42 "Alan" "Turing") := by
    refine .cons (.reader .async (agree ?_)) <| .cons (.read .async) <| .cons (.getValue 0) <|
      .cons (.nonQuery .blocking (agree ?_)) <| .cons (.dispose .async) <| .nil _
    all_goals
      refine List.forall_mem_cons.2 ⟨.some rfl, List.forall_mem_singleton.2 (.some ?_)⟩
      rw [Parameter.Agree]
      exact .some ⟨rfl, by simp [Parameter.AgreeParts, Parameter.Agree, Parameter.of, Value.dbType]⟩
  have alike : s.scene = scene := rfl
  exact ⟨⟨Script.answersAlike, parallel, alike⟩, values_untold Script.answersAlike parallel alike⟩

end SqlExecution
