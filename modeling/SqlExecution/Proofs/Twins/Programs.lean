import Mathlib.Data.List.Forall2
import SqlExecution.Proofs.OpenCalls
import SqlExecution.Proofs.Twins.Readers
import SqlExecution.Proofs.Twins.Transactions

/-! Programs in two runs. Operations that differ only in what a comparison overlooks have the same
answers, and leave workspaces that it does not tell apart. -/

namespace SqlExecution

variable {σ α β : Type}

open Session

namespace Named

/-- Things in the same order under the same names, related one by one. -/
def Pairs (R : α → β → Prop) : List (String × α) → List (String × β) → Prop :=
  List.Forall₂ fun e e' => e.1 = e'.1 ∧ R e.2 e'.2

variable {R : α → β → Prop} {xs : List (String × α)} {ys : List (String × β)}

theorem Pairs.find? (pairs : Pairs R xs ys) (name : String) :
    (Named.find? name xs = none ∧ Named.find? name ys = none) ∨
      ∃ a a', Named.find? name xs = some a ∧ Named.find? name ys = some a' ∧ R a a' := by
  induction pairs with
  | nil => exact .inl ⟨rfl, rfl⟩
  | @cons e e' xs ys related rest ih =>
    by_cases here : e.1 = name
    · refine .inr ⟨e.2, e'.2, ?_, ?_, related.2⟩
      · rw [← here, find?_cons_same]
      · rw [← here, related.1, find?_cons_same]
    · rw [find?_cons_of_ne here, find?_cons_of_ne (related.1 ▸ here)]
      exact ih

theorem Pairs.insert (pairs : Pairs R xs ys) (name : String) {a : α} {a' : β} (related : R a a') :
    Pairs R (Named.insert name a xs) (Named.insert name a' ys) := by
  induction pairs with
  | nil => exact .cons ⟨rfl, related⟩ .nil
  | @cons e e' xs ys first rest ih =>
    obtain ⟨k, x⟩ := e
    obtain ⟨k', y⟩ := e'
    obtain ⟨rfl, stays⟩ := first
    unfold Named.insert
    split
    · exact .cons ⟨rfl, related⟩ (.cons ⟨rfl, stays⟩ rest)
    · split
      · exact .cons ⟨rfl, related⟩ rest
      · exact .cons ⟨rfl, stays⟩ ih

theorem Pairs.erase (pairs : Pairs R xs ys) (name : String) :
    Pairs R (Named.erase name xs) (Named.erase name ys) := by
  induction pairs with
  | nil => exact .nil
  | @cons e e' xs ys first rest ih =>
    unfold Named.erase at ih ⊢
    rw [List.filter_cons, List.filter_cons, first.1]
    split
    · exact .cons first ih
    · exact ih

theorem Pairs.map_eq {γ : Type} {f : α → γ} {g : β → γ} (pairs : Pairs R xs ys)
    (same : ∀ a a', R a a' → f a = g a') :
    xs.map (fun e => (e.1, f e.2)) = ys.map (fun e => (e.1, g e.2)) := by
  induction pairs with
  | nil => rfl
  | cons first rest ih => rw [List.map_cons, List.map_cons, first.1, same _ _ first.2, ih]

theorem Pairs.of_map_eq {γ : Type} {f : α → γ} {g : β → γ}
    (same : xs.map (fun e => (e.1, f e.2)) = ys.map (fun e => (e.1, g e.2)))
    (each : ∀ e ∈ xs, ∀ e' ∈ ys, f e.2 = g e'.2 → R e.2 e'.2) : Pairs R xs ys := by
  induction xs generalizing ys with
  | nil =>
    cases ys with
    | nil => exact .nil
    | cons e' ys => cases same
  | cons e xs ih =>
    cases ys with
    | nil => cases same
    | cons e' ys =>
      obtain ⟨first, rest⟩ := List.cons.inj same
      obtain ⟨names, values⟩ := Prod.mk.inj first
      refine .cons ⟨names, each e (List.mem_cons_self ..) e' (List.mem_cons_self ..) values⟩ ?_
      exact ih rest fun x member y member' =>
        each x (List.mem_cons_of_mem _ member) y (List.mem_cons_of_mem _ member')

end Named

/-- The loggers that new events come from have a property: those of connections and of open
readers. -/
structure Workspace.EachLogger (P : Logger σ → Prop) (w : Workspace σ) : Prop where
  connections (id : ConnectionId) : ∀ l ∈ (w.session.connections id).logger, P l
  readers : ∀ c ∈ w.commands, ∀ l ∈ c.2.readerLogger?, P l

/-- The logger of the operation's request, if it has one, has a property. -/
def Operation.EachLogger (P : Logger σ → Prop) (op : Operation σ) : Prop :=
  ∀ r ∈ op.request?, ∀ l ∈ r.logger, P l

theorem Operation.eachLogger_of_none {P : Logger σ → Prop} {op : Operation σ}
    (none : op.request? = none) : op.EachLogger P := by
  intro r asked
  rw [none] at asked
  cases asked

theorem Operation.eachLogger_of_some {P : Logger σ → Prop} {op : Operation σ} {r : Request σ}
    (some : op.request? = some r) (each : ∀ l ∈ r.logger, P l) : op.EachLogger P := by
  intro r' asked
  rw [some] at asked
  cases asked
  exact each

/-- The form that is asked for, of an operation that has two. -/
def Operation.mode? : Operation σ → Option Mode
  | openNative _ mode => some mode
  | closeNative _ mode => some mode
  | openConnection _ mode => some mode
  | closeConnection _ mode => some mode
  | begin _ _ _ mode => some mode
  | adopt _ _ _ mode => some mode
  | complete _ _ mode => some mode
  | disposeTransaction _ mode => some mode
  | executeNonQuery _ _ mode => some mode
  | executeScalar _ _ mode => some mode
  | executeReader _ _ mode => some mode
  | read _ mode => some mode
  | nextResult _ mode => some mode
  | disposeReader _ mode => some mode
  | _ => none

namespace Blur

/-- Two workspaces that a comparison does not tell apart. -/
structure Workspaces (b : Blur) (w w' : Workspace σ) : Prop where
  session : b.Alike w.session w'.session
  transactions : Named.Pairs (fun t t' => b.transaction t = b.transaction t')
    w.transactions w'.transactions
  commands : Named.Pairs b.Commands w.commands w'.commands

theorem Workspaces.same {b : Blur} {w w' : Workspace σ} (workspaces : b.Workspaces w w') :
    b.workspace w = b.workspace w' := by
  unfold workspace
  rw [workspaces.session.same, workspaces.transactions.map_eq fun _ _ same => same,
    workspaces.commands.map_eq fun _ _ commands => commands.same]

theorem Workspaces.of_same {b : Blur} {w w' : Workspace σ} (same : b.workspace w = b.workspace w')
    (suits : w.EachLogger b.Suits) (shown : w'.EachLogger fun _ => b.diagnostics = false) :
    b.Workspaces w w' where
  session := by
    have sessions : b.session w.session = b.session w'.session :=
      (congrArg Workspace.session same :)
    refine ⟨sessions, fun id => .of_same ?_ (suits.connections id) (shown.connections id)⟩
    exact (congrArg (fun u : Session σ => (u.connections id).logger) sessions :)
  transactions :=
    .of_map_eq (congrArg Workspace.transactions same) fun _ _ _ _ transactions => transactions
  commands :=
    .of_map_eq (congrArg Workspace.commands same) fun c member c' member' commands =>
      .of_same commands (suits.readers c member) (shown.readers c' member')

/-- Two operations that differ only in what a comparison overlooks. -/
inductive Twins (b : Blur) : Operation σ → Operation σ → Prop where
  | limitTrace {limit limit' : Option TraceLevel}
      (limits : b.detail none limit = b.detail none limit') :
      Twins b (.limitTrace limit) (.limitTrace limit')
  | setCancelled (reason : Option CancelReason) :
      Twins b (.setCancelled reason) (.setCancelled reason)
  | openNative (c : ConnectionId) {m m' : Mode} (modes : b.mode m = b.mode m') :
      Twins b (.openNative c m) (.openNative c m')
  | closeNative (c : ConnectionId) {m m' : Mode} (modes : b.mode m = b.mode m') :
      Twins b (.closeNative c m) (.closeNative c m')
  | openConnection (c : ConnectionId) {m m' : Mode} (modes : b.mode m = b.mode m') :
      Twins b (.openConnection c m) (.openConnection c m')
  | closeConnection (c : ConnectionId) {m m' : Mode} (modes : b.mode m = b.mode m') :
      Twins b (.closeConnection c m) (.closeConnection c m')
  | begin (name : String) (c : ConnectionId) (isolation : IsolationLevel) {m m' : Mode}
      (modes : b.mode m = b.mode m') :
      Twins b (.begin name c isolation m) (.begin name c isolation m')
  | adopt (name : String) (c : ConnectionId) (native : NativeTransaction) {m m' : Mode}
      (modes : b.mode m = b.mode m') : Twins b (.adopt name c native m) (.adopt name c native m')
  | complete (name : String) (completion : Completion) {m m' : Mode}
      (modes : b.mode m = b.mode m') :
      Twins b (.complete name completion m) (.complete name completion m')
  | disposeTransaction (name : String) {m m' : Mode} (modes : b.mode m = b.mode m') :
      Twins b (.disposeTransaction name m) (.disposeTransaction name m')
  | dropTransaction (name : String) : Twins b (.dropTransaction name) (.dropTransaction name)
  | declare (name : String) (s : Statement) : Twins b (.declare name s) (.declare name s)
  | populate (name : String) (s : Statement) : Twins b (.populate name s) (.populate name s)
  | dropCommand (name : String) : Twins b (.dropCommand name) (.dropCommand name)
  | executeNonQuery (name : String) (r : Request σ) {m m' : Mode} (modes : b.mode m = b.mode m') :
      Twins b (.executeNonQuery name r m) (.executeNonQuery name (b.request r) m')
  | executeScalar (name : String) (r : Request σ) {m m' : Mode} (modes : b.mode m = b.mode m') :
      Twins b (.executeScalar name r m) (.executeScalar name (b.request r) m')
  | executeReader (name : String) (r : Request σ) {m m' : Mode} (modes : b.mode m = b.mode m') :
      Twins b (.executeReader name r m) (.executeReader name (b.request r) m')
  | createCommand (name : String) (method : Method) (r : Request σ) :
      Twins b (.createCommand name method r) (.createCommand name method (b.request r))
  | read (name : String) {m m' : Mode} (modes : b.mode m = b.mode m') :
      Twins b (.read name m) (.read name m')
  | nextResult (name : String) {m m' : Mode} (modes : b.mode m = b.mode m') :
      Twins b (.nextResult name m) (.nextResult name m')
  | getValue (name : String) (ordinal : Nat) :
      Twins b (.getValue name ordinal) (.getValue name ordinal)
  | isNull (name : String) (ordinal : Nat) : Twins b (.isNull name ordinal) (.isNull name ordinal)
  | columnName (name : String) (ordinal : Nat) :
      Twins b (.columnName name ordinal) (.columnName name ordinal)
  | drain (name : String) : Twins b (.drain name) (.drain name)
  | disposeReader (name : String) {m m' : Mode} (modes : b.mode m = b.mode m') :
      Twins b (.disposeReader name m) (.disposeReader name m')

/-- Two steps from workspaces that are alike have answers that are alike, and lead to workspaces
that are alike, provided that the first does not find its context cancelled where that counts. -/
def Agree (b : Blur) (heeds : Prop) (w : Workspace σ) (x x' : Answer σ × Workspace σ) : Prop :=
  (heeds → Calm w.session x.2.session) → b.answer x.1 = b.answer x'.1 ∧ b.Workspaces x.2 x'.2

end Blur

/-- Begin a transaction. If that succeeds, the one that it replaces goes out of scope. -/
def Transaction.replacing [Driver σ] (old : Option (Transaction σ))
    (begins : Attempt σ (Transaction σ)) : Attempt σ (Transaction σ) := do
  let t ← begins
  Attempt.lift (old.elim (pure ()) drop)
  return t

namespace Program

variable {b : Blur} {heeds : Prop} {w w' : Workspace σ} (workspaces : b.Workspaces w w')
include workspaces

theorem agree_same (a : Answer σ) : b.Agree heeds w (a, w) (a, w') := fun _ => ⟨rfl, workspaces⟩

theorem agree_engine {γ : Type} {view : α → γ} {m n : Engine σ α} (answer : α → Answer σ)
    (both : Engine.Match b heeds view m n)
    (answers : ∀ a a', view a = view a' → b.answer (answer a) = b.answer (answer a')) :
    b.Agree heeds w ((answer <$> engine m) w) ((answer <$> engine n) w') := fun calm => by
  obtain ⟨same, alike⟩ := both.agrees workspaces.session calm
  exact ⟨answers _ _ same, alike, workspaces.transactions, workspaces.commands⟩

theorem agree_attempt {m n : Attempt σ α} (answer : Outcome α → Answer σ)
    (both : Attempt.Match b heeds id m n) :
    b.Agree heeds w ((answer <$> engine m.observe) w) ((answer <$> engine n.observe) w') :=
  agree_engine workspaces answer both.seen fun _ _ same =>
    congrArg (fun o => b.answer (answer o)) same

theorem agree_withTransaction {name : String} {act act' : Transaction σ → Program σ (Answer σ)}
    (each : ∀ t t', b.transaction t = b.transaction t' → b.Agree heeds w (act t w) (act' t' w')) :
    b.Agree heeds w (withTransaction name act w) (withTransaction name act' w') := by
  unfold withTransaction
  rw [bind_apply, bind_apply, get_apply, get_apply]
  dsimp only
  rcases workspaces.transactions.find? name with ⟨absent, absent'⟩ | ⟨t, t', found, found', same⟩
  · rw [absent, absent']
    exact agree_same workspaces _
  · rw [found, found']
    exact each t t' same

theorem agree_withCommand {name : String} {act act' : Command σ → Program σ (Answer σ)}
    (each : ∀ c c', b.Commands c c' → b.Agree heeds w (act c w) (act' c' w')) :
    b.Agree heeds w (withCommand name act w) (withCommand name act' w') := by
  unfold withCommand
  rw [bind_apply, bind_apply, get_apply, get_apply]
  dsimp only
  rcases workspaces.commands.find? name with ⟨absent, absent'⟩ | ⟨c, c', found, found', commands⟩
  · rw [absent, absent']
    exact agree_same workspaces _
  · rw [found, found']
    exact each c c' commands

theorem agree_keepTransaction (name : String) {m n : Engine σ (Outcome Unit × Transaction σ)}
    (both : Engine.Match b heeds (Prod.map id b.transaction) m n) :
    b.Agree heeds w ((do
        let x ← engine m
        keepTransaction name x.2
        return .done x.1 : Program σ (Answer σ)) w) ((do
        let x ← engine n
        keepTransaction name x.2
        return .done x.1 : Program σ (Answer σ)) w') := fun calm => by
  obtain ⟨same, alike⟩ := both.agrees workspaces.session calm
  obtain ⟨outcomes, transactions⟩ := Prod.mk.inj same
  exact ⟨congrArg Answer.done outcomes, alike, workspaces.transactions.insert name transactions,
    workspaces.commands⟩

variable [Driver σ]

omit workspaces in
theorem keepBegun_apply (name : String) (begins : Attempt σ (Transaction σ)) (w : Workspace σ)
    {o : Outcome (Transaction σ)} {s : Session σ}
    (replaces : (Transaction.replacing (Named.find? name w.transactions) begins).observe w.session =
      (o, s)) :
    (do keepBegun name (← engine begins.observe) : Program σ (Answer σ)) w =
      (.begun o, { w with
        session := s
        transactions := o.toOption.elim w.transactions (Named.insert name · w.transactions) }) := by
  rw [bind_apply, engine_apply]
  unfold Transaction.replacing at replaces
  rw [Attempt.observe_bind, Engine.bind_apply] at replaces
  rcases ends : begins.observe w.session with ⟨failure | t, u⟩
  · rw [ends] at replaces
    cases replaces
    rfl
  · rw [ends] at replaces
    have last : (Named.find? name w.transactions).elim u (fun old => (old.drop u).2) = s := by
      refine Eq.trans ?_ (congrArg Prod.snd replaces)
      cases Named.find? name w.transactions <;> rfl
    rw [keepBegun_ok]
    cases congrArg Prod.fst replaces
    cases last
    rfl

theorem agree_keepBegun (even : b.forms = true → Driver.Even σ) (name : String)
    {begins begins' : Attempt σ (Transaction σ)}
    (both : Attempt.Match b heeds b.transaction begins begins') :
    b.Agree heeds w ((do keepBegun name (← engine begins.observe) : Program σ (Answer σ)) w)
      ((do keepBegun name (← engine begins'.observe) : Program σ (Answer σ)) w') := by
  have replaced : Attempt.Match b heeds b.transaction
      (Transaction.replacing (Named.find? name w.transactions) begins)
      (Transaction.replacing (Named.find? name w'.transactions) begins') := by
    refine both.bind fun t t' same => ?_
    rcases workspaces.transactions.find? name with
      ⟨absent, absent'⟩ | ⟨old, old', found, found', olds⟩
    · rw [absent, absent']
      exact .pure same
    · rw [found, found']
      exact (Attempt.match_lift (Transaction.match_drop even olds)).andThen fun _ => .pure same
  rcases ends : (Transaction.replacing (Named.find? name w.transactions) begins).observe
    w.session with ⟨o, s⟩
  rcases ends' : (Transaction.replacing (Named.find? name w'.transactions) begins').observe
    w'.session with ⟨o', s'⟩
  rw [keepBegun_apply name begins w ends, keepBegun_apply name begins' w' ends']
  intro calm
  obtain ⟨same, alike⟩ := replaced.agrees workspaces.session (by rw [ends]; exact calm)
  rw [ends, ends'] at same alike
  refine ⟨congrArg Answer.begun same, alike, ?_, workspaces.commands⟩
  rcases o with failure | t <;> rcases o' with failure' | t'
  · exact workspaces.transactions
  · cases same
  · cases same
  · exact workspaces.transactions.insert name (Except.ok.inj same)

theorem agree_dropTransaction (even : b.forms = true → Driver.Even σ) (name : String) :
    b.Agree heeds w (dropTransaction name w) (dropTransaction name w') :=
  agree_withTransaction workspaces fun t t' same calm => by
    obtain ⟨_, alike⟩ := (Transaction.match_drop even same).agrees workspaces.session calm
    exact ⟨rfl, alike, workspaces.transactions.erase name, workspaces.commands⟩

theorem agree_dropCommand (even : b.forms = true → Driver.Even σ) (name : String) :
    b.Agree heeds w (dropCommand name w) (dropCommand name w') :=
  agree_withCommand workspaces fun c c' commands calm => by
    obtain ⟨_, alike⟩ := (Command.match_drop even commands).agrees workspaces.session calm
    exact ⟨rfl, alike, workspaces.transactions, workspaces.commands.erase name⟩

theorem agree_declare (even : b.forms = true → Driver.Even σ) (name : String) (s : Statement) :
    b.Agree heeds w ((Operation.declare name s).perform w)
      ((Operation.declare name s).perform w') := by
  rw [Operation.declare_apply, Operation.declare_apply]
  intro calm
  have declared : b.Commands ({ statement := s } : Command σ) { statement := s } := ⟨rfl, .nothing⟩
  have commands := workspaces.commands.insert name declared
  rcases workspaces.commands.find? name with ⟨absent, absent'⟩ | ⟨old, old', found, found', olds⟩
  · rw [absent, absent']
    exact ⟨rfl, workspaces.session, workspaces.transactions, commands⟩
  · rw [found] at calm ⊢
    rw [found']
    obtain ⟨_, alike⟩ := (Command.match_drop even olds).agrees workspaces.session calm
    exact ⟨rfl, alike, workspaces.transactions, commands⟩

theorem agree_populate (name : String) (s : Statement) :
    b.Agree heeds w ((Operation.populate name s).perform w)
      ((Operation.populate name s).perform w') :=
  agree_withCommand workspaces fun c c' commands _ => by
    have populated : b.Commands (c.populate s) (c'.populate s) :=
      ⟨congrArg (fun c : Command σ => { c with statement := s }) commands.same, commands.heard⟩
    exact ⟨rfl, workspaces.session, workspaces.transactions,
      workspaces.commands.insert name populated⟩

theorem agree_executeReader (even : b.forms = true → Driver.Even σ) {mode mode' : Mode}
    (forms : b.Forms heeds mode mode') {r : Request σ} (suits : ∀ l ∈ r.logger, b.Suits l)
    (name : String) :
    b.Agree heeds w ((Operation.executeReader name r mode).perform w)
      ((Operation.executeReader name (b.request r) mode').perform w') :=
  agree_withCommand workspaces fun c c' commands calm => by
    have both := Command.match_executeReader even commands forms suits
    obtain ⟨same, alike⟩ := both.agrees workspaces.session calm
    obtain ⟨outcomes, kept⟩ := Prod.mk.inj same
    have requested := Statement.heard_request suits
    have after : b.Commands (c.executeReader mode r w.session).1.2
        (c'.executeReader mode' (b.request r) w'.session).1.2 :=
      .of_same kept (c.logger_executeReader suits commands.heard.suits)
        (c'.logger_executeReader requested.shown commands.heard.shown)
    exact ⟨congrArg Answer.bound outcomes, alike, workspaces.transactions,
      workspaces.commands.insert name after⟩

theorem agree_withReader (name : String) (use use' : ReaderUse σ)
    {act act' : DataReader σ → Engine σ (Answer σ × DataReader σ)}
    (acts : ∀ r s, ((act r s).1.2, (act r s).2) = use.perform r s)
    (acts' : ∀ r s, ((act' r s).1.2, (act' r s).2) = use'.perform r s)
    (both : ∀ r r', b.Readers r r' →
      Engine.Match b heeds (Prod.map b.answer b.reader) (act r) (act' r')) :
    b.Agree heeds w (withReader name act w) (withReader name act' w') :=
  agree_withCommand workspaces fun c c' commands => by
    rcases commands.reader with ⟨none, none'⟩ | ⟨r, r', some, some', readers⟩
    · rw [none, none']
      exact agree_same workspaces _
    · rw [some, some']
      intro calm
      obtain ⟨same, alike⟩ := (both r r' readers).agrees workspaces.session calm
      obtain ⟨answers, kept⟩ := Prod.mk.inj same
      have uses : (act r w.session).1.2 = (use.perform r w.session).1 :=
        congrArg Prod.fst (acts r w.session)
      have uses' : (act' r' w'.session).1.2 = (use'.perform r' w'.session).1 :=
        congrArg Prod.fst (acts' r' w'.session)
      have after : b.Readers (act r w.session).1.2 (act' r' w'.session).1.2 := by
        refine .of_same kept (fun l member => ?_) fun l member => ?_
        · rw [uses] at member
          exact readers.heard.suits l (use.logger_perform r w.session l member)
        · rw [uses'] at member
          exact readers.heard.shown l (use'.logger_perform r' w'.session l member)
      exact ⟨answers, alike, workspaces.transactions,
        workspaces.commands.insert name (commands.withReader after)⟩

end Program

namespace Operation

variable {b : Blur} {heeds : Prop}

theorem match_answering {γ : Type} (answer : γ → Answer σ)
    {m n : Engine σ (γ × DataReader σ)} (both : Engine.Match b heeds (Prod.map id b.reader) m n) :
    Engine.Match b heeds (Prod.map b.answer b.reader) ((fun x => (answer x.1, x.2)) <$> m)
      ((fun x => (answer x.1, x.2)) <$> n) :=
  both.map fun _ _ same => by
    obtain ⟨outcomes, readers⟩ := Prod.mk.inj same
    exact Prod.ext (congrArg (fun o => b.answer (answer o)) outcomes) readers

theorem match_looking {γ : Type} (answer : γ → Answer σ) {m n : Engine σ γ} {r r' : DataReader σ}
    (same : b.reader r = b.reader r') (both : Engine.Match b heeds id m n) :
    Engine.Match b heeds (Prod.map b.answer b.reader) ((fun x => (answer x, r)) <$> m)
      ((fun x => (answer x, r')) <$> n) :=
  both.map fun _ _ values => Prod.ext (congrArg (fun x => b.answer (answer x)) values) same

variable [Driver σ]

/-- Two operations that differ only in what a comparison overlooks, from workspaces that it does not
tell apart. -/
theorem perform_agrees (even : b.forms = true → Driver.Even σ) {op op' : Operation σ}
    (twins : b.Twins op op') (heed : op.mode? = some .async ∨ op'.mode? = some .async → heeds)
    (suits : op.EachLogger b.Suits) {w w' : Workspace σ}
    (workspaces : b.Workspaces w w') : b.Agree heeds w (op.perform w) (op'.perform w') := by
  have forms : ∀ {m m' : Mode}, op.mode? = some m → op'.mode? = some m' → b.mode m = b.mode m' →
      b.Forms heeds m m' := fun {m m'} asked asked' modes => by
    refine ⟨modes, fun async => heed ?_⟩
    rw [asked, asked']
    exact async.imp (congrArg some) (congrArg some)
  cases twins with
  | @limitTrace limit limit' limits =>
    intro _
    refine ⟨rfl, ⟨?_, workspaces.session.heard⟩, workspaces.transactions, workspaces.commands⟩
    change ({ b.session w.session with traceLimit := b.detail none limit } : Session σ) =
      { b.session w'.session with traceLimit := b.detail none limit' }
    rw [workspaces.session.same, limits]
  | setCancelled reason =>
    exact fun _ => ⟨rfl, workspaces.session.moved fun scene => { scene with cancelled := reason },
      workspaces.transactions, workspaces.commands⟩
  | @openNative c m m' modes =>
    have notes : b.call (.openConnection c m) = b.call (.openConnection c m') :=
      congrArg (NativeCall.openConnection c) modes
    have performs := (forms rfl rfl modes).perform (d := (Driver.openConnection c : Dual σ Unit))
      fun overlooked => (even overlooked).openConnection c
    exact Program.agree_attempt workspaces .done (Attempt.match_call notes performs)
  | @closeNative c m m' modes =>
    have notes : b.call (.closeConnection c m) = b.call (.closeConnection c m') :=
      congrArg (NativeCall.closeConnection c) modes
    have performs := (forms rfl rfl modes).perform (d := (Driver.closeConnection c : Dual σ Unit))
      fun overlooked => (even overlooked).closeConnection c
    exact Program.agree_attempt workspaces .done (Attempt.match_call notes performs)
  | openConnection c modes =>
    exact Program.agree_attempt workspaces .flag
      (ConnectionId.match_acquire even (forms rfl rfl modes) c)
  | closeConnection c modes =>
    exact Program.agree_attempt workspaces .flag
      (ConnectionId.match_release even (forms rfl rfl modes) c)
  | begin name c isolation modes =>
    exact Program.agree_keepBegun workspaces even name
      (Transaction.match_start even (forms rfl rfl modes) c isolation)
  | adopt name c native modes =>
    exact Program.agree_keepBegun workspaces even name
      (Transaction.match_adopt even (forms rfl rfl modes) c native)
  | complete name completion modes =>
    exact Program.agree_withTransaction workspaces fun t t' same =>
      Program.agree_keepTransaction workspaces name
        (Transaction.match_complete even (forms rfl rfl modes) same completion)
  | disposeTransaction name modes =>
    exact Program.agree_withTransaction workspaces fun t t' same =>
      Program.agree_keepTransaction workspaces name
        (Transaction.match_dispose even (forms rfl rfl modes) same)
  | dropTransaction name => exact Program.agree_dropTransaction workspaces even name
  | declare name s => exact Program.agree_declare workspaces even name s
  | populate name s => exact Program.agree_populate workspaces name s
  | dropCommand name => exact Program.agree_dropCommand workspaces even name
  | executeNonQuery name r modes =>
    refine Program.agree_withCommand workspaces fun c c' commands => ?_
    have statement : c.statement = c'.statement := (congrArg Command.statement commands.same :)
    rw [statement]
    exact Program.agree_attempt workspaces .affected (Statement.match_executeOnce even
      (forms rfl rfl modes) (suits r rfl) c'.statement Shape.nonQuery_uniform)
  | executeScalar name r modes =>
    refine Program.agree_withCommand workspaces fun c c' commands => ?_
    have statement : c.statement = c'.statement := (congrArg Command.statement commands.same :)
    rw [statement]
    exact Program.agree_attempt workspaces .scalar (Statement.match_executeOnce even
      (forms rfl rfl modes) (suits r rfl) c'.statement Shape.scalar_uniform)
  | executeReader name r modes =>
    exact Program.agree_executeReader workspaces even (forms rfl rfl modes) (suits r rfl) name
  | createCommand name method r =>
    refine Program.agree_withCommand workspaces fun c c' commands => ?_
    have statement : c.statement = c'.statement := (congrArg Command.statement commands.same :)
    rw [statement]
    refine Program.agree_engine workspaces (fun x => .created x.1 x.2)
      (Statement.match_createCommand even (suits r rfl) c'.statement method) fun x x' same => ?_
    obtain ⟨outcomes, ids⟩ := Prod.mk.inj same
    exact congrArg₂ Answer.created outcomes ids
  | read name modes =>
    exact Program.agree_withReader workspaces name (.read _) (.read _) (fun _ _ => rfl)
      (fun _ _ => rfl) fun r r' readers =>
        match_answering .flag (DataReader.match_read even (forms rfl rfl modes) readers.same)
  | nextResult name modes =>
    exact Program.agree_withReader workspaces name (.nextResult _) (.nextResult _) (fun _ _ => rfl)
      (fun _ _ => rfl) fun r r' readers =>
        match_answering .flag (DataReader.match_nextResult even (forms rfl rfl modes) readers.same)
  | getValue name ordinal =>
    exact Program.agree_withReader workspaces name (.getValue ordinal) (.getValue ordinal)
      (fun _ _ => rfl) (fun _ _ => rfl) fun r r' readers =>
        match_looking (fun v => .value (.ofResult v)) readers.same
          (DataReader.match_getValue readers.same ordinal)
  | isNull name ordinal =>
    exact Program.agree_withReader workspaces name (.isNull ordinal) (.isNull ordinal)
      (fun _ _ => rfl) (fun _ _ => rfl) fun r r' readers =>
        match_looking (fun v => .flag (.ofResult v)) readers.same
          (DataReader.match_isNull readers.same ordinal)
  | columnName name ordinal =>
    exact Program.agree_withReader workspaces name (.columnName ordinal) (.columnName ordinal)
      (fun _ _ => rfl) (fun _ _ => rfl) fun r r' readers =>
        match_looking (fun v => .name (.ofResult v)) readers.same
          (DataReader.match_columnName readers.same ordinal)
  | drain name =>
    exact Program.agree_withReader workspaces name .drain .drain (fun _ _ => rfl)
      (fun _ _ => rfl) fun r r' readers =>
        match_answering .drained (DataReader.match_drain even readers.same)
  | disposeReader name modes =>
    exact Program.agree_withReader workspaces name (.dispose _) (.dispose _) (fun _ _ => rfl)
      (fun _ _ => rfl) fun r r' readers =>
        match_answering .done (DataReader.match_dispose (forms rfl rfl modes) even readers)

end Operation

namespace Program

variable [Driver σ]

/-- No operation that heeds its context finds it cancelled. -/
def Undisturbed (heeds : Operation σ → Prop) : List (Operation σ) → Workspace σ → Prop
  | [], _ => True
  | op :: ops, w =>
    (heeds op → Calm w.session (op.perform w).2.session) ∧
      Undisturbed heeds ops (op.perform w).2

instance Undisturbed.decide (heeds : Operation σ → Prop) [DecidablePred heeds] :
    ∀ (ops : List (Operation σ)) (w : Workspace σ), Decidable (Undisturbed heeds ops w)
  | [], _ => .isTrue trivial
  | op :: ops, w =>
    have := Undisturbed.decide heeds ops (op.perform w).2
    inferInstanceAs (Decidable ((_ → _) ∧ _))

theorem Undisturbed.take {heeds : Operation σ → Prop} {ops : List (Operation σ)} {w : Workspace σ}
    (undisturbed : Undisturbed heeds ops w) (n : Nat) : Undisturbed heeds (ops.take n) w := by
  induction ops generalizing w n with
  | nil => rwa [List.take_nil]
  | cons op ops ih =>
    cases n with
    | zero => exact trivial
    | succ n => exact ⟨undisturbed.1, ih undisturbed.2 n⟩

variable {b : Blur} {heeds : Operation σ → Prop}

/-- Two programs that differ only in what a comparison overlooks, from workspaces that it does not
tell apart. -/
theorem run_agrees (even : b.forms = true → Driver.Even σ) {ops ops' : List (Operation σ)}
    (twins : List.Forall₂ b.Twins ops ops')
    (heed : ∀ op op', b.Twins op op' → op.mode? = some .async ∨ op'.mode? = some .async → heeds op)
    (suits : ∀ op ∈ ops, op.EachLogger b.Suits) {w w' : Workspace σ}
    (workspaces : b.Workspaces w w') (undisturbed : Undisturbed heeds ops w) :
    (run ops w).1.map b.answer = (run ops' w').1.map b.answer ∧
      b.Workspaces (run ops w).2 (run ops' w').2 := by
  induction twins generalizing w w' with
  | nil => exact ⟨rfl, workspaces⟩
  | @cons op op' ops ops' first rest ih =>
    obtain ⟨calm, later⟩ := undisturbed
    obtain ⟨here, others⟩ := List.forall_mem_cons.1 suits
    obtain ⟨answers, next⟩ :=
      Operation.perform_agrees even first (heed op op' first) here workspaces calm
    obtain ⟨remaining, last⟩ := ih others next later
    rw [run_cons, run_cons, List.map_cons, List.map_cons, answers, remaining]
    exact ⟨rfl, last⟩

theorem run_prefixes_agree (even : b.forms = true → Driver.Even σ) {ops ops' : List (Operation σ)}
    (twins : List.Forall₂ b.Twins ops ops')
    (heed : ∀ op op', b.Twins op op' → op.mode? = some .async ∨ op'.mode? = some .async → heeds op)
    (suits : ∀ op ∈ ops, op.EachLogger b.Suits) {w w' : Workspace σ}
    (workspaces : b.Workspaces w w') (undisturbed : Undisturbed heeds ops w) :
    (run ops w).1.map b.answer = (run ops' w').1.map b.answer ∧
      ∀ n, b.workspace (run (ops.take n) w).2 = b.workspace (run (ops'.take n) w').2 := by
  refine ⟨(run_agrees even twins heed suits workspaces undisturbed).1, fun n => ?_⟩
  have early := run_agrees even (List.forall₂_take n twins) heed
    (fun op member => suits op (List.mem_of_mem_take member)) workspaces (undisturbed.take n)
  exact early.2.same

end Program

end SqlExecution
