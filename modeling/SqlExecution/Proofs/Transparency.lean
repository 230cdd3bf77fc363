import SqlExecution.Proofs.Twins.Programs
import SqlExecution.Scripted.Basic

/-! Diagnostics are transparent. Loggers whose interceptors leave every hook at its default change
nothing but trace records and the identifiers that only events need: without them a program has the
same answers and the same effects, also when it fails. -/

namespace SqlExecution

variable {σ : Type}

open Session

/-- The comparison that overlooks loggers, events and trace records, and the identifiers of
executions. -/
def Blur.unlogged : Blur := ⟨false, true⟩

theorem Blur.Twins.mode_eq {op op' : Operation σ} (twins : Blur.unlogged.Twins op op') :
    op.mode? = op'.mode? := by
  have same : ∀ {m m' : Mode}, Blur.unlogged.mode m = Blur.unlogged.mode m' → m = m' :=
    fun modes => modes
  cases twins with
  | openNative c modes => exact congrArg some (same modes)
  | closeNative c modes => exact congrArg some (same modes)
  | openConnection c modes => exact congrArg some (same modes)
  | closeConnection c modes => exact congrArg some (same modes)
  | begin name c isolation modes => exact congrArg some (same modes)
  | adopt name c native modes => exact congrArg some (same modes)
  | complete name completion modes => exact congrArg some (same modes)
  | disposeTransaction name modes => exact congrArg some (same modes)
  | executeNonQuery name r modes => exact congrArg some (same modes)
  | executeScalar name r modes => exact congrArg some (same modes)
  | executeReader name r modes => exact congrArg some (same modes)
  | read name modes => exact congrArg some (same modes)
  | nextResult name modes => exact congrArg some (same modes)
  | disposeReader name modes => exact congrArg some (same modes)
  | _ => rfl

namespace Program

variable [Driver σ]

/-- A program with loggers that only pass through what they see, and the program without any logger,
at any levels of trace records, where no asynchronous operation finds its context cancelled. Every
answer is the same, and after every operation so are the calls to the driver, in order and with what
they are given and find, what connections count, the current transactions, and what has become of
transactions and readers. -/
theorem diagnostics_transparent {ops ops' : List (Operation σ)}
    (twins : List.Forall₂ Blur.unlogged.Twins ops ops')
    (hooks : ∀ op ∈ ops, op.EachLogger Logger.Still) {w w' : Workspace σ}
    (same : Blur.unlogged.workspace w = Blur.unlogged.workspace w')
    (loggers : w.EachLogger Logger.Still) (silent : w'.EachLogger fun _ => False)
    (undisturbed : Undisturbed (fun op => op.mode? = some .async) ops w) :
    (run ops w).1.map Blur.unlogged.answer = (run ops' w').1.map Blur.unlogged.answer ∧
      ∀ n, Blur.unlogged.workspace (run (ops.take n) w).2 =
        Blur.unlogged.workspace (run (ops'.take n) w').2 := by
  have suits : ∀ l : Logger σ, l.Still → Blur.unlogged.Suits l := fun l still =>
    ⟨nofun, fun _ => still⟩
  have start : Blur.unlogged.Workspaces w w' := by
    refine .of_same same ⟨fun id l member => ?_, fun c kept l member => ?_⟩
      ⟨fun id l member => ?_, fun c kept l member => ?_⟩
    · exact suits l (loggers.connections id l member)
    · exact suits l (loggers.readers c kept l member)
    · exact (silent.connections id l member).elim
    · exact (silent.readers c kept l member).elim
  refine run_prefixes_agree (fun forms => by cases forms) twins (fun op op' alike async => ?_)
    (fun op member r asked l told => suits l (hooks op member r asked l told)) start undisturbed
  rw [← alike.mode_eq, or_self] at async
  exact async

omit [Driver σ] in
/-- A query within a transaction, logged at every level and not at all. -/
theorem diagnostics_transparent_query :
    let id : ConnectionId := ⟨0⟩
    let l : Logger Script := ⟨{}, [.passThrough "audit"], [.passThrough "audit"]⟩
    let r : Request Script := { connection := id, logger := some l, detailedErrors := true }
    let program (limit : Option TraceLevel) (r : Request Script) : List (Operation Script) := [
      .limitTrace limit, .openConnection id .blocking, .begin "t" id .serializable .async,
      .declare "q" ⟨"SELECT 1", []⟩, .executeReader "q" r .async, .read "q" .async,
      .complete "t" .commit .blocking, .disposeReader "q" .async]
    let ops := program (some .trace) r
    let ops' := program none { r with logger := none }
    let w' : Workspace Script := .begun ⟨{}, none⟩
    let w : Workspace Script := { w' with
      session := w'.session.setConnection id { logger := some l } }
    (List.Forall₂ Blur.unlogged.Twins ops ops' ∧ (∀ op ∈ ops, op.EachLogger Logger.Still) ∧
      Blur.unlogged.workspace w = Blur.unlogged.workspace w' ∧ w.EachLogger Logger.Still ∧
      w'.EachLogger (fun _ => False) ∧
      Undisturbed (fun op => op.mode? = some .async) ops w) ∧
    (run ops w).1.map Blur.unlogged.answer = (run ops' w').1.map Blur.unlogged.answer ∧
      ∀ n, Blur.unlogged.workspace (run (ops.take n) w).2 =
        Blur.unlogged.workspace (run (ops'.take n) w').2 := by
  intro id l r program ops ops' w' w
  have twins : List.Forall₂ Blur.unlogged.Twins ops ops' :=
    .cons (.limitTrace rfl) <| .cons (.openConnection id rfl) <|
      .cons (.begin "t" id .serializable rfl) <| .cons (.declare "q" _) <|
      .cons (.executeReader "q" r rfl) <| .cons (.read "q" rfl) <|
      .cons (.complete "t" .commit rfl) <| .cons (.disposeReader "q" rfl) .nil
  have still : l.Still := ⟨by simp [l, CommandInterceptor.passThrough],
    by simp [l, TransactionInterceptor.passThrough]⟩
  have hooks : ∀ op ∈ ops, op.EachLogger Logger.Still := by
    have silent {op : Operation Script} : op.request? = none → op.EachLogger Logger.Still :=
      Operation.eachLogger_of_none
    have asks {op : Operation Script} (some : op.request? = some r) : op.EachLogger Logger.Still :=
      Operation.eachLogger_of_some some fun _ told => by
        cases told
        exact still
    simp only [ops, program, List.forall_mem_cons]
    exact ⟨silent rfl, silent rfl, silent rfl, silent rfl, asks rfl, silent rfl, silent rfl,
      silent rfl, by simp⟩
  have same : Blur.unlogged.workspace w = Blur.unlogged.workspace w' := by
    have sessions : Blur.unlogged.session w.session = Blur.unlogged.session w'.session := by
      refine (Blur.session_setConnection id _ _).trans ?_
      have each : ∀ c, (if c = id then Blur.unlogged.connection { logger := some l }
          else (Blur.unlogged.session w'.session).connections c) =
          (Blur.unlogged.session w'.session).connections c := fun c => by split <;> rfl
      simp only [setConnection, each]
    exact congrArg (fun s => ({ session := s } : Workspace Script)) sessions
  have loggers : w.EachLogger Logger.Still := by
    refine ⟨fun c x member => ?_, fun _ member => (by cases member)⟩
    by_cases here : c = id
    · rw [here, setConnection_same] at member
      cases member
      exact still
    · rw [setConnection_of_ne _ here] at member
      cases member
  have silent : w'.EachLogger fun _ => False :=
    ⟨fun _ _ member => (by cases member), fun _ member => (by cases member)⟩
  have undisturbed : Undisturbed (fun op => op.mode? = some .async) ops w := by
    decide +kernel +zetaReduce
  exact ⟨⟨twins, hooks, same, loggers, silent, undisturbed⟩,
    diagnostics_transparent twins hooks same loggers silent undisturbed⟩

end Program

end SqlExecution
