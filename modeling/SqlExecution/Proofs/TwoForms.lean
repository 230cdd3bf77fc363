import SqlExecution.Proofs.PlainEndings
import SqlExecution.Scripted.Basic

/-! Blocking and asynchronous operations agree. With a driver and interceptors that have blocking
forms of their own only, and under a context that is never cancelled, it does not matter which form
of an operation is used: its answer and its effects are the same. -/

namespace SqlExecution

variable {σ α : Type}

open Session

/-- The comparison that overlooks which form was used: of calls, events and trace records it sees
all but the form. -/
def Blur.eitherForm : Blur := ⟨true, false⟩

/-- The state of a driver that is used in its blocking form only. -/
structure Lifted (σ : Type) where
  state : σ

namespace Lifted

def act (a : Act σ α) : Act (Lifted σ) α := fun s =>
  let (x, scene) := a ⟨s.state.state, s.cancelled⟩
  (x, ⟨⟨scene.state⟩, scene.cancelled⟩)

def dual (d : Dual σ α) : Dual (Lifted σ) α := .ofBlocking (act d.blocking)

/-- The driver whose asynchronous calls are the blocking calls of another. -/
instance [Driver σ] : Driver (Lifted σ) where
  isOpen id s := Driver.isOpen id s.state
  openConnection id := dual (Driver.openConnection id)
  closeConnection id := dual (Driver.closeConnection id)
  createCommand id := act (Driver.createCommand id)
  begin id isolation := dual (Driver.begin id isolation)
  commit t := dual (Driver.commit t)
  rollback t := dual (Driver.rollback t)
  executeNonQuery c := dual (Driver.executeNonQuery c)
  executeScalar c := dual (Driver.executeScalar c)
  executeReader c := dual (Driver.executeReader c)
  dispose c := dual (Driver.dispose c)
  fieldCount c s := Driver.fieldCount c s.state
  recordsAffected c s := Driver.recordsAffected c s.state
  remaining c s := Driver.remaining c s.state
  columnName c ordinal := act (Driver.columnName c ordinal)
  read c := dual (Driver.read c)
  nextResult c := dual (Driver.nextResult c)
  getValue c ordinal := act (Driver.getValue c ordinal)
  closeCursor c := dual (Driver.closeCursor c)

theorem even [Driver σ] : Driver.Even (Lifted σ) where
  openConnection _ := rfl
  closeConnection _ := rfl
  begin _ _ := rfl
  commit _ := rfl
  rollback _ := rfl
  executeNonQuery _ := rfl
  executeScalar _ := rfl
  executeReader _ := rfl
  dispose _ := rfl
  read _ := rfl
  nextResult _ := rfl
  closeCursor _ := rfl

end Lifted

/-! The default hooks do the same in both forms. -/

theorem Around.passThrough_even : (passThrough : Around σ α).Even where
  executing _ _ _ _ := ⟨rfl, rfl⟩
  executed _ _ _ _ := ⟨rfl, rfl⟩

theorem CommandInterceptor.passThrough_even (name : String) :
    (passThrough name : CommandInterceptor σ).Even where
  creating _ _ _ := rfl
  created _ _ _ := rfl
  nonQuery := Around.passThrough_even
  scalar := Around.passThrough_even
  reader := Around.passThrough_even
  failed _ _ _ _ _ := rfl
  disposing _ _ _ _ _ := rfl

theorem TransactionInterceptor.passThrough_even (name : String) :
    (passThrough name : TransactionInterceptor σ).Even where
  starting _ _ _ := ⟨rfl, rfl⟩
  started _ _ _ := ⟨rfl, rfl⟩

theorem Operation.twins_blocking (op : Operation σ) : Blur.eitherForm.Twins op op.blocking := by
  cases op with
  | limitTrace limit => exact .limitTrace rfl
  | setCancelled reason => exact .setCancelled reason
  | openNative c mode => exact .openNative c rfl
  | closeNative c mode => exact .closeNative c rfl
  | openConnection c mode => exact .openConnection c rfl
  | closeConnection c mode => exact .closeConnection c rfl
  | begin name c isolation mode => exact .begin name c isolation rfl
  | adopt name c native mode => exact .adopt name c native rfl
  | complete name completion mode => exact .complete name completion rfl
  | disposeTransaction name mode => exact .disposeTransaction name rfl
  | dropTransaction name => exact .dropTransaction name
  | declare name s => exact .declare name s
  | populate name s => exact .populate name s
  | dropCommand name => exact .dropCommand name
  | executeNonQuery name r mode => exact .executeNonQuery name r rfl
  | executeScalar name r mode => exact .executeScalar name r rfl
  | executeReader name r mode => exact .executeReader name r rfl
  | createCommand name method r => exact .createCommand name method r
  | read name mode => exact .read name rfl
  | nextResult name mode => exact .nextResult name rfl
  | getValue name ordinal => exact .getValue name ordinal
  | isNull name ordinal => exact .isNull name ordinal
  | columnName name ordinal => exact .columnName name ordinal
  | drain name => exact .drain name
  | disposeReader name mode => exact .disposeReader name rfl

namespace Program

variable [Driver σ]

section Agreement

variable (even : Driver.Even σ) {ops : List (Operation σ)} {w : Workspace σ}
  (hooks : ∀ op ∈ ops, op.EachLogger Logger.Even) (loggers : w.EachLogger Logger.Even)
  (uncancelled : Undisturbed (fun _ => True) ops w)
include even hooks loggers uncancelled

theorem agree_of_twins {ops' : List (Operation σ)}
    (twins : List.Forall₂ Blur.eitherForm.Twins ops ops') :
    (run ops w).1.map Blur.eitherForm.answer = (run ops' w).1.map Blur.eitherForm.answer ∧
      ∀ n, Blur.eitherForm.workspace (run (ops.take n) w).2 =
        Blur.eitherForm.workspace (run (ops'.take n) w).2 := by
  have suits : ∀ l : Logger σ, l.Even → Blur.eitherForm.Suits l := fun l hooks =>
    ⟨fun _ => hooks, nofun⟩
  have start : Blur.eitherForm.Workspaces w w := by
    refine .of_same rfl ⟨fun id l member => ?_, fun c kept l member => ?_⟩
      ⟨fun _ _ _ => rfl, fun _ _ _ _ => rfl⟩
    · exact suits l (loggers.connections id l member)
    · exact suits l (loggers.readers c kept l member)
  exact run_prefixes_agree (fun _ => even) twins (fun _ _ _ _ => trivial)
    (fun op member r asked l told => suits l (hooks op member r asked l told)) start uncancelled

theorem plain_run : ∀ a ∈ (run ops w).1, a.Plain := by
  have twins : List.Forall₂ Blur.eitherForm.Twins ops (ops.map Operation.blocking) :=
    List.forall₂_map_right_iff.2 (List.forall₂_same.2 fun op _ => op.twins_blocking)
  have same := (agree_of_twins even hooks loggers uncancelled twins).1
  have plain := plain_run_blocking ops w
  exact Answer.plain_of_map_eq same plain

end Agreement

/-- Two runs of a program that use the forms of its operations as they choose. Every operation ends
with a value or an error, the same in both runs; and after every operation so are the calls to the
driver, in order and with what they are given, the events and trace records, what connections count,
the current transactions, and what has become of transactions and readers. -/
theorem forms_agree (even : Driver.Even σ) {ops ops' : List (Operation σ)}
    (twins : List.Forall₂ Blur.eitherForm.Twins ops ops')
    (hooks : ∀ op ∈ ops, op.EachLogger Logger.Even) {w : Workspace σ}
    (loggers : w.EachLogger Logger.Even) (uncancelled : Undisturbed (fun _ => True) ops w) :
    (∀ a ∈ (run ops w).1 ++ (run ops' w).1, a.Plain) ∧
      (run ops w).1.map Blur.eitherForm.answer = (run ops' w).1.map Blur.eitherForm.answer ∧
      ∀ n, Blur.eitherForm.workspace (run (ops.take n) w).2 =
        Blur.eitherForm.workspace (run (ops'.take n) w).2 := by
  obtain ⟨answers, workspaces⟩ := agree_of_twins even hooks loggers uncancelled twins
  have plain := plain_run even hooks loggers uncancelled
  have plain' := Answer.plain_of_map_eq answers.symm plain
  exact ⟨List.forall_mem_append.2 ⟨plain, plain'⟩, answers, workspaces⟩

omit [Driver σ] in
/-- Two queries within a transaction, in forms that are mixed in opposite ways. One is executed, and
an interceptor answers the other. -/
theorem forms_agree_queries :
    let id : ConnectionId := ⟨0⟩
    let cache : CommandInterceptor (Lifted Script) := { CommandInterceptor.passThrough "cache" with
      coverage := .blockingOnly
      scalar := ⟨fun _ _ _ => .pure (.hasResult none), fun _ _ v => .pure v⟩ }
    let l : Logger (Lifted Script) :=
      ⟨{}, [.passThrough "audit", cache], [.passThrough "audit"]⟩
    let r : Request (Lifted Script) :=
      { connection := id, logger := some l, detailedErrors := false }
    let w : Workspace (Lifted Script) := .begun ⟨⟨{}⟩, none⟩
    let program (m m' : Mode) : List (Operation (Lifted Script)) := [.openConnection id m,
      .begin "t" id .serializable m', .declare "q" ⟨"SELECT 1", []⟩, .executeReader "q" r m,
      .executeScalar "q" r m', .read "q" m', .complete "t" .commit m, .disposeReader "q" m']
    let ops := program .blocking .async
    let ops' := program .async .blocking
    (List.Forall₂ Blur.eitherForm.Twins ops ops' ∧ (∀ op ∈ ops, op.EachLogger Logger.Even) ∧
      w.EachLogger Logger.Even ∧ Undisturbed (fun _ => True) ops w) ∧
    (∀ a ∈ (run ops w).1 ++ (run ops' w).1, a.Plain) ∧
      (run ops w).1.map Blur.eitherForm.answer = (run ops' w).1.map Blur.eitherForm.answer ∧
      ∀ n, Blur.eitherForm.workspace (run (ops.take n) w).2 =
        Blur.eitherForm.workspace (run (ops'.take n) w).2 := by
  intro id cache l r w program ops ops'
  have twins : List.Forall₂ Blur.eitherForm.Twins ops ops' :=
    .cons (.openConnection id rfl) <| .cons (.begin "t" id .serializable rfl) <|
      .cons (.declare "q" _) <| .cons (.executeReader "q" r rfl) <|
      .cons (.executeScalar "q" r rfl) <| .cons (.read "q" rfl) <|
      .cons (.complete "t" .commit rfl) <| .cons (.disposeReader "q" rfl) .nil
  have answers : cache.Even :=
    { CommandInterceptor.passThrough_even "cache" with
      scalar := ⟨fun _ _ _ _ => ⟨rfl, rfl⟩, fun _ _ _ _ => ⟨rfl, rfl⟩⟩ }
  have even : l.Even := by
    constructor
    · exact List.forall_mem_cons.2
        ⟨CommandInterceptor.passThrough_even _, List.forall_mem_singleton.2 answers⟩
    · exact List.forall_mem_singleton.2 (TransactionInterceptor.passThrough_even _)
  have hooks : ∀ op ∈ ops, op.EachLogger Logger.Even := by
    have silent {op : Operation (Lifted Script)} : op.request? = none → op.EachLogger Logger.Even :=
      Operation.eachLogger_of_none
    have asks {op : Operation (Lifted Script)} (some : op.request? = some r) :
        op.EachLogger Logger.Even :=
      Operation.eachLogger_of_some some fun _ told => by
        cases told
        exact even
    simp only [ops, program, List.forall_mem_cons]
    exact ⟨silent rfl, silent rfl, silent rfl, asks rfl, asks rfl, silent rfl, silent rfl,
      silent rfl, by simp⟩
  have loggers : w.EachLogger Logger.Even :=
    ⟨fun _ _ member => (by cases member), fun _ member => (by cases member)⟩
  have uncancelled : Undisturbed (fun _ => True) ops w := by decide +kernel +zetaReduce
  exact ⟨⟨twins, hooks, loggers, uncancelled⟩,
    forms_agree Lifted.even twins hooks loggers uncancelled⟩

end Program

end SqlExecution
