import SqlExecution.Program
import SqlExecution.Proofs.Tallies
import SqlExecution.Scripted.Basic

/-! The number of opens of a connection, over whole programs: it is what the program
itself opened and did not close, and one for each open reader and each unreleased
transaction of the connection. -/

namespace SqlExecution

variable {σ : Type}

/-- The reader of the command is open on the connection. -/
def Command.holds (id : ConnectionId) (c : Command σ) : Bool := c.reader.any (·.holds id)

theorem Session.Follows.inserted {β : Type} {id : ConnectionId} {s t : Session σ} {p : β → Bool}
    {name : String} {b : β} {entries : List (String × β)} (sorted : Named.Sorted entries)
    (follows : Follows id s t ((Named.find? name entries).any p).toNat (p b).toNat) :
    Follows id s t (entries.countP (p ·.2)) ((Named.insert name b entries).countP (p ·.2)) := by
  have counts := Named.countP_insert sorted p name b
  have bound := Named.countP_erase sorted p name
  intro enough
  have step := follows (by omega)
  omega

theorem Session.Follows.erased {β : Type} {id : ConnectionId} {s t : Session σ} {p : β → Bool}
    {name : String} {entries : List (String × β)} (sorted : Named.Sorted entries)
    (follows : Follows id s t ((Named.find? name entries).any p).toNat 0) :
    Follows id s t (entries.countP (p ·.2)) ((Named.erase name entries).countP (p ·.2)) := by
  have counts := Named.countP_erase sorted p name
  intro enough
  have step := follows (by omega)
  omega

namespace Workspace

/-- The number of readers that are open on the connection. -/
def openReaders (id : ConnectionId) (w : Workspace σ) : Nat :=
  w.commands.countP fun c => c.2.holds id

/-- The number of transactions that hold an open of the connection. -/
def openTransactions (id : ConnectionId) (w : Workspace σ) : Nat :=
  w.transactions.countP fun t => t.2.holds id

def held (id : ConnectionId) (w : Workspace σ) : Nat := w.openReaders id + w.openTransactions id

/-- Nothing was done yet, as far as opens go. -/
structure Fresh (w : Workspace σ) : Prop where
  transactions : w.transactions = []
  commands : w.commands = []
  openCount : ∀ id, w.session.openCount id = 0

/-- What is kept is in order, and disposed transactions have given their opens back. -/
structure Sound (w : Workspace σ) : Prop where
  transactions : Named.Sorted w.transactions
  commands : Named.Sorted w.commands
  released : ∀ t ∈ w.transactions, t.2.Sound

theorem Sound.of_find? {w : Workspace σ} (sound : w.Sound) {name : String} {t : Transaction σ}
    (found : Named.find? name w.transactions = some t) : t.Sound :=
  sound.released _ (Named.mem_of_find? found)

theorem Fresh.sound {w : Workspace σ} (fresh : w.Fresh) : w.Sound := by
  refine ⟨?_, ?_, ?_⟩
  · rw [fresh.transactions]
    exact Named.sorted_nil
  · rw [fresh.commands]
    exact Named.sorted_nil
  · rw [fresh.transactions]
    intro t member
    cases member

theorem Fresh.held {w : Workspace σ} (fresh : w.Fresh) (id : ConnectionId) : w.held id = 0 := by
  rw [Workspace.held, openReaders, openTransactions, fresh.transactions, fresh.commands]
  rfl

/-- The number of opens follows what is held in the workspace and, besides, by the program. -/
structure Follows (id : ConnectionId) (w w' : Workspace σ) (before after : Nat) : Prop where
  sound : w'.Sound
  count : Session.Follows id w.session w'.session (w.held id + before) (w'.held id + after)

variable {id : ConnectionId} {w : Workspace σ} {s : Session σ} {before after : Nat}

theorem Follows.refl (sound : w.Sound) : Follows id w w 0 0 := ⟨sound, .of_openCount rfl⟩

theorem Follows.of_session (sound : w.Sound)
    (follows : Session.Follows id w.session s before after) :
    Follows id w { w with session := s } before after :=
  ⟨⟨sound.transactions, sound.commands, sound.released⟩, follows.frame _⟩

theorem Follows.keepTransaction (sound : w.Sound) {name : String} {t : Transaction σ}
    (follows : Session.Follows id w.session s
      ((Named.find? name w.transactions).any (·.holds id)).toNat (t.holds id).toNat)
    (tSound : t.Sound) :
    Follows id w
      { w with session := s, transactions := Named.insert name t w.transactions } 0 0 := by
  refine ⟨⟨Named.sorted_insert sound.transactions name t, sound.commands, ?_⟩, ?_⟩
  · intro e member
    rcases Named.mem_insert member with rfl | old
    · exact tSound
    · exact sound.released e old
  · exact (follows.inserted sound.transactions).frame (w.openReaders id)

theorem Follows.eraseTransaction (sound : w.Sound) {name : String}
    (follows : Session.Follows id w.session s
      ((Named.find? name w.transactions).any (·.holds id)).toNat 0) :
    Follows id w { w with session := s, transactions := Named.erase name w.transactions } 0 0 := by
  refine ⟨⟨Named.sorted_erase sound.transactions name, sound.commands, ?_⟩, ?_⟩
  · intro e member
    exact sound.released e (List.mem_filter.1 member).1
  · exact (follows.erased sound.transactions).frame (w.openReaders id)

theorem Follows.keepCommand (sound : w.Sound) {name : String} {c : Command σ}
    (follows : Session.Follows id w.session s
      ((Named.find? name w.commands).any (·.holds id)).toNat (c.holds id).toNat) :
    Follows id w { w with session := s, commands := Named.insert name c w.commands } 0 0 := by
  refine ⟨⟨sound.transactions, Named.sorted_insert sound.commands name c, sound.released⟩, ?_⟩
  have beside : Session.Follows id s s (w.openTransactions id) (w.openTransactions id) :=
    .of_openCount rfl
  exact (follows.inserted sound.commands).combine beside

theorem Follows.eraseCommand (sound : w.Sound) {name : String}
    (follows : Session.Follows id w.session s
      ((Named.find? name w.commands).any (·.holds id)).toNat 0) :
    Follows id w { w with session := s, commands := Named.erase name w.commands } 0 0 := by
  refine ⟨⟨sound.transactions, Named.sorted_erase sound.commands name, sound.released⟩, ?_⟩
  have beside : Session.Follows id s s (w.openTransactions id) (w.openTransactions id) :=
    .of_openCount rfl
  exact (follows.erased sound.commands).combine beside

end Workspace

theorem Statement.createCommand_follows [Driver σ] (id : ConnectionId) (statement : Statement)
    (method : Method) (r : Request σ) (s : Session σ) :
    Session.Follows id s (statement.createCommand method r s).2 0 0 := by
  have settles := statement.createCommand_settles method r s
  rcases ends : statement.createCommand method r s with ⟨⟨failure | c, serial⟩, t⟩
  all_goals rw [ends] at settles
  · exact settled_follows settles
  · obtain ⟨_, _, _, _, within⟩ := settles
    exact .of_within within

namespace Command

variable [Driver σ]

theorem executeReader_follows (id : ConnectionId) (mode : Mode) (r : Request σ) (c : Command σ)
    (s : Session σ) :
    Session.Follows id s (c.executeReader mode r s).2 (c.holds id).toNat
      ((c.executeReader mode r s).1.2.holds id).toNat := by
  rw [executeReader_apply]
  rcases opens : (c.statement.openCursor mode r).observe s with ⟨failure | b, t⟩
  · exact (Statement.settled_follows (Statement.openCursor_settled opens)).frame _
  · obtain ⟨d, _, _, _, _, connection, holds⟩ := Statement.openCursor_held opens
    have taken : Session.Follows id s t 0 (id.share r.connection) := .of_added (by
      rw [holds.openCount]
      simp [ConnectionId.share])
    have given := (ReaderUse.supersede mode b).perform_follows id (c.reader.getD {}) t
    have before : c.holds id = (c.reader.getD {}).holds id := by
      unfold Command.holds
      cases c.reader <;> rfl
    have spent : ((ReaderUse.supersede mode b).perform (c.reader.getD {}) t).1.holds id = false :=
      DataReader.holds_of_none (c.reader.getD {}).holding_retired id
    have after : id.share r.connection =
        (Command.holds id { c with reader := some (.ofBinding b) }).toNat := by
      rw [← ConnectionId.toNat_decide, ← connection]
      rfl
    have both := taken.combine given
    rw [spent, after, ← before, Nat.zero_add, Bool.toNat_false, Nat.add_zero] at both
    exact both

theorem executeReader_openCount {mode : Mode} {r : Request σ} {c : Command σ} {s : Session σ}
    {failure : Failure} (fails : (c.executeReader mode r s).1.1 = .error failure) :
    (c.executeReader mode r s).2.openCount = s.openCount := by
  rw [executeReader_apply] at fails ⊢
  rcases opens : (c.statement.openCursor mode r).observe s with ⟨failure' | b, t⟩
  · exact Statement.settled_openCount (Statement.openCursor_settled opens)
  · rw [opens] at fails
    cases fails

theorem drop_follows (id : ConnectionId) (c : Command σ) (s : Session σ) :
    Session.Follows id s (c.drop s).2 (c.holds id).toNat 0 := by
  unfold drop Command.holds
  cases c.reader with
  | none => exact .of_openCount rfl
  | some r =>
    have follows := ReaderUse.drop.perform_follows id r s
    have spent : (ReaderUse.drop.perform r s).1.holds id = false :=
      DataReader.holds_of_none r.holding_retired id
    rw [spent] at follows
    exact follows

end Command

namespace Program

variable {id : ConnectionId} {w : Workspace σ} {name : String}

theorem withTransaction_cases {P : Answer σ × Workspace σ → Prop}
    {act : Transaction σ → Program σ (Answer σ)} (absent : P (.noTransaction, w))
    (each : ∀ t, Named.find? name w.transactions = some t → P (act t w)) :
    P (withTransaction name act w) := by
  unfold withTransaction
  rw [bind_apply, get_apply]
  dsimp only
  cases found : Named.find? name w.transactions with
  | none => exact absent
  | some t => exact each t found

theorem withTransaction_found {act : Transaction σ → Program σ (Answer σ)} {t : Transaction σ}
    (found : Named.find? name w.transactions = some t) : withTransaction name act w = act t w := by
  unfold withTransaction
  rw [bind_apply, get_apply]
  dsimp only
  rw [found]

theorem withCommand_cases {P : Answer σ × Workspace σ → Prop}
    {act : Command σ → Program σ (Answer σ)} (absent : P (.noCommand, w))
    (each : ∀ c, Named.find? name w.commands = some c → P (act c w)) :
    P (withCommand name act w) := by
  unfold withCommand
  rw [bind_apply, get_apply]
  dsimp only
  cases found : Named.find? name w.commands with
  | none => exact absent
  | some c => exact each c found

theorem follows_withTransaction (sound : w.Sound) {act : Transaction σ → Program σ (Answer σ)}
    (each : ∀ t, Named.find? name w.transactions = some t → w.Follows id (act t w).2 0 0) :
    w.Follows id (withTransaction name act w).2 0 0 :=
  withTransaction_cases (P := fun x => w.Follows id x.2 0 0) (.refl sound) each

theorem follows_withCommand (sound : w.Sound) {act : Command σ → Program σ (Answer σ)}
    (each : ∀ c, Named.find? name w.commands = some c → w.Follows id (act c w).2 0 0) :
    w.Follows id (withCommand name act w).2 0 0 :=
  withCommand_cases (P := fun x => w.Follows id x.2 0 0) (.refl sound) each

variable [Driver σ]

theorem keepBegun_ok (name : String) (t : Transaction σ) (w : Workspace σ) :
    keepBegun name (.ok t) w = (.begun (.ok t), { w with
      session := (Named.find? name w.transactions).elim w.session fun old => (old.drop w.session).2
      transactions := Named.insert name t w.transactions }) := by
  unfold keepBegun
  dsimp only
  rw [bind_apply, get_apply]
  dsimp only
  cases Named.find? name w.transactions <;> rfl

theorem follows_keepBegun (sound : w.Sound) {o : Outcome (Transaction σ)} {s : Session σ}
    (follows : Session.Follows id w.session s 0 (Outcome.held (fun t => (t.holds id).toNat) o))
    (soundAfter : ∀ t, o = .ok t → t.Sound) :
    w.Follows id (keepBegun name o { w with session := s }).2 0 0 := by
  cases o with
  | error failure => exact .of_session sound follows
  | ok t =>
    rw [keepBegun_ok]
    refine .keepTransaction sound ?_ (soundAfter t rfl)
    cases found : Named.find? name w.transactions with
    | none => exact follows
    | some old =>
      have dropped := Transaction.drop_follows id (sound.of_find? found) s
      have both := follows.combine dropped
      rw [Nat.zero_add, Nat.add_zero] at both
      exact both

theorem follows_withReader (sound : w.Sound) (use : ReaderUse σ)
    {act : DataReader σ → Engine σ (Answer σ × DataReader σ)}
    (acts : ∀ r s, ((act r s).1.2, (act r s).2) = use.perform r s) :
    w.Follows id (withReader name act w).2 0 0 := by
  refine follows_withCommand sound fun c found => ?_
  cases reader : c.reader with
  | none => exact .refl sound
  | some r =>
    have follows := use.perform_follows id r w.session
    rw [← acts] at follows
    refine .keepCommand sound ?_
    rw [found]
    have held : Command.holds id c = r.holds id := by rw [Command.holds, reader, Option.any_some]
    rw [Option.any_some, held]
    exact follows

end Program

namespace Operation

/-- The opens that an operation takes for the program itself. -/
def opens (id : ConnectionId) (op : Operation σ) (a : Answer σ) : Nat :=
  match op, a with
  | openConnection c _, .flag (.ok _) => id.share c
  | _, _ => 0

/-- The opens that an operation gives back for the program itself. -/
def closes (id : ConnectionId) : Operation σ → Nat
  | closeConnection c _ => id.share c
  | _ => 0

theorem opens_or_closes (id : ConnectionId) (op : Operation σ) (a : Answer σ) :
    op.opens id a = 0 ∨ op.closes id = 0 := by
  cases op with
  | closeConnection c mode => exact .inl rfl
  | _ => exact .inr rfl

variable [Driver σ] {id : ConnectionId} {w : Workspace σ}

theorem declare_apply (name : String) (statement : Statement) (w : Workspace σ) :
    (declare name statement).perform w = (.nothing, { w with
      session := (Named.find? name w.commands).elim w.session fun old => (old.drop w.session).2
      commands := Named.insert name { statement } w.commands }) := by
  rw [perform, Program.bind_apply, Program.get_apply]
  dsimp only
  cases Named.find? name w.commands <;> rfl

theorem perform_follows (id : ConnectionId) (op : Operation σ) (sound : w.Sound) :
    w.Follows id (op.perform w).2 (op.closes id) (op.opens id (op.perform w).1) := by
  cases op with
  | limitTrace limit => exact .of_session sound (.of_openCount rfl)
  | setCancelled reason => exact .of_session sound (.of_openCount rfl)
  | openNative c mode =>
    have called := Engine.issues_call (.openConnection c mode)
      ((Driver.openConnection c).perform mode) w.session
    exact .of_session sound (.of_openCount called.openCount)
  | closeNative c mode =>
    have called := Engine.issues_call (.closeConnection c mode)
      ((Driver.closeConnection c).perform mode) w.session
    exact .of_session sound (.of_openCount called.openCount)
  | openConnection c mode =>
    have follows := ConnectionId.acquire_follows mode id c w.session
    have taken : ∀ o : Outcome Bool, opens id (openConnection c mode : Operation σ) (.flag o) =
        Outcome.held (fun _ => id.share c) o := by
      intro o
      cases o <;> rfl
    rw [← taken] at follows
    exact .of_session sound follows
  | closeConnection c mode =>
    exact .of_session sound (ConnectionId.release_follows mode id c w.session)
  | begin name c isolation mode =>
    exact Program.follows_keepBegun sound
      (Transaction.start_follows id mode c isolation w.session) fun t starts =>
        Transaction.sound_of_start (Prod.ext starts rfl)
  | adopt name c native mode =>
    exact Program.follows_keepBegun sound
      (Transaction.adopt_follows id mode c native w.session) fun t adopts =>
        Transaction.sound_of_adopt (Prod.ext adopts rfl)
  | complete name completion mode =>
    refine Program.follows_withTransaction sound fun t found => ?_
    have tSound : t.Sound := sound.of_find? found
    obtain ⟨follows, soundAfter⟩ := Transaction.complete_tracks id mode completion tSound w.session
    refine .keepTransaction sound ?_ soundAfter
    rw [found]
    exact follows
  | disposeTransaction name mode =>
    refine Program.follows_withTransaction sound fun t found => ?_
    have tSound : t.Sound := sound.of_find? found
    obtain ⟨follows, released⟩ := Transaction.dispose_follows id mode tSound w.session
    rw [← Bool.toNat_false, ← Transaction.holds_of_released released id] at follows
    refine .keepTransaction sound ?_ fun _ => released
    rw [found]
    exact follows
  | dropTransaction name =>
    refine Program.follows_withTransaction sound fun t found => ?_
    have tSound : t.Sound := sound.of_find? found
    refine .eraseTransaction sound ?_
    rw [found]
    exact Transaction.drop_follows id tSound w.session
  | declare name statement =>
    rw [declare_apply]
    refine .keepCommand sound ?_
    cases found : Named.find? name w.commands with
    | none => exact .of_openCount rfl
    | some old => exact old.drop_follows id w.session
  | populate name statement =>
    refine Program.follows_withCommand sound fun c found => ?_
    refine .keepCommand sound ?_
    rw [found]
    exact .of_openCount rfl
  | dropCommand name =>
    refine Program.follows_withCommand sound fun c found => ?_
    refine .eraseCommand sound ?_
    rw [found]
    exact c.drop_follows id w.session
  | executeNonQuery name r mode =>
    refine Program.follows_withCommand sound fun c found => .of_session sound ?_
    exact Statement.settled_follows
      (Statement.executeOnce_settled Shape.nonQuery_faithful c.statement mode r w.session)
  | executeScalar name r mode =>
    refine Program.follows_withCommand sound fun c found => .of_session sound ?_
    exact Statement.settled_follows
      (Statement.executeOnce_settled Shape.scalar_faithful c.statement mode r w.session)
  | executeReader name r mode =>
    refine Program.follows_withCommand sound fun c found => ?_
    refine .keepCommand sound ?_
    rw [found]
    exact c.executeReader_follows id mode r w.session
  | createCommand name method r =>
    refine Program.follows_withCommand sound fun c found => .of_session sound ?_
    exact c.statement.createCommand_follows id method r w.session
  | read name mode => exact Program.follows_withReader sound (.read mode) fun _ _ => rfl
  | nextResult name mode => exact Program.follows_withReader sound (.nextResult mode) fun _ _ => rfl
  | getValue name ordinal =>
    exact Program.follows_withReader sound (.getValue ordinal) fun _ _ => rfl
  | isNull name ordinal => exact Program.follows_withReader sound (.isNull ordinal) fun _ _ => rfl
  | columnName name ordinal =>
    exact Program.follows_withReader sound (.columnName ordinal) fun _ _ => rfl
  | drain name => exact Program.follows_withReader sound .drain fun _ _ => rfl
  | disposeReader name mode => exact Program.follows_withReader sound (.dispose mode) fun _ _ => rfl

end Operation

namespace Program

/-- The opens that a program gives back for itself. -/
def closed (id : ConnectionId) : List (Operation σ) → Nat
  | [] => 0
  | op :: rest => op.closes id + closed id rest

theorem closed_append (id : ConnectionId) (ops more : List (Operation σ)) :
    closed id (ops ++ more) = closed id ops + closed id more := by
  induction ops with
  | nil => simp [closed]
  | cons op rest ih => rw [List.cons_append, closed, closed, ih, Nat.add_assoc]

variable [Driver σ] {id : ConnectionId} {w : Workspace σ}

/-- The opens that a program takes for itself. -/
def opened (id : ConnectionId) : List (Operation σ) → Workspace σ → Nat
  | [], _ => 0
  | op :: rest, w => op.opens id (op.perform w).1 + opened id rest (op.perform w).2

theorem opened_append (ops more : List (Operation σ)) (w : Workspace σ) :
    opened id (ops ++ more) w = opened id ops w + opened id more (run ops w).2 := by
  induction ops generalizing w with
  | nil => simp [opened]
  | cons op rest ih =>
    rw [List.cons_append, opened, opened, ih, run_cons, Nat.add_assoc]

/-- The accounts hold after every part of a program in which the program does not give back more
than it took. -/
theorem follows_run (sound : w.Sound) (start : w.session.openCount id = w.held id)
    (ops : List (Operation σ))
    (own : ∀ n, closed id (ops.take n) ≤ opened id (ops.take n) w) (n : Nat) :
    (run (ops.take n) w).2.Sound ∧
      (run (ops.take n) w).2.session.openCount id + closed id (ops.take n) =
        opened id (ops.take n) w + (run (ops.take n) w).2.held id := by
  induction n with
  | zero =>
    refine ⟨sound, ?_⟩
    simpa [opened, closed] using start
  | succ n ih =>
    obtain ⟨soundHere, here⟩ := ih
    rw [List.take_add_one]
    cases next : ops[n]? with
    | none => simpa using ⟨soundHere, here⟩
    | some op =>
      -- The operation keeps the accounts as long as what it starts from is really open. That
      -- follows from the accounts so far, since `own` bounds what was closed, this one included.
      have enough := own n
      have enoughNext := own (n + 1)
      rw [List.take_add_one, next, Option.toList_some, closed_append, opened_append] at enoughNext
      have follows := op.perform_follows id soundHere
      have oneWay := op.opens_or_closes id (op.perform (run (ops.take n) w).2).1
      have closes : closed id [op] = op.closes id := by simp [closed]
      have opens : opened id [op] (run (ops.take n) w).2 =
          op.opens id (op.perform (run (ops.take n) w).2).1 := rfl
      have ends : (run (ops.take n ++ [op]) w).2 = (op.perform (run (ops.take n) w).2).2 := by
        rw [run_append]
        rfl
      rw [Option.toList_some, ends, closed_append, opened_append, closes, opens]
      rw [closes, opens] at enoughNext
      have step := follows.count (by omega)
      exact ⟨follows.sound, by omega⟩

end Program

/-- The answer of an execution, a begin or a use that failed. -/
def Answer.Failed : Answer σ → Prop
  | .affected (.error _) => True
  | .scalar (.error _) => True
  | .bound (.error _) => True
  | .created (.error _) _ => True
  | .begun (.error _) => True
  | _ => False

/-- If this is a failure, every connection has as many opens as before. -/
def Workspace.KeptOnFailure (w : Workspace σ) (x : Answer σ × Workspace σ) : Prop :=
  x.1.Failed → x.2.session.openCount = w.session.openCount

namespace Program

variable {w : Workspace σ} {name : String}

theorem kept_withTransaction {act : Transaction σ → Program σ (Answer σ)}
    (each : ∀ t, w.KeptOnFailure (act t w)) : w.KeptOnFailure (withTransaction name act w) :=
  withTransaction_cases (P := w.KeptOnFailure) (fun failed => failed.elim) fun t _ => each t

theorem kept_withCommand {act : Command σ → Program σ (Answer σ)}
    (each : ∀ c, w.KeptOnFailure (act c w)) : w.KeptOnFailure (withCommand name act w) :=
  withCommand_cases (P := w.KeptOnFailure) (fun failed => failed.elim) fun c _ => each c

theorem kept_withReader {act : DataReader σ → Engine σ (Answer σ × DataReader σ)}
    (other : ∀ r s, ¬ (act r s).1.1.Failed) : w.KeptOnFailure (withReader name act w) := by
  refine kept_withCommand fun c => ?_
  cases c.reader with
  | none => exact fun failed => failed.elim
  | some r => exact fun failed => absurd failed (other r w.session)

theorem kept_keepBegun [Driver σ] {o : Outcome (Transaction σ)} {s : Session σ}
    (follows : ∀ id, Session.Follows id w.session s 0
      (Outcome.held (fun t => (t.holds id).toNat) o)) :
    w.KeptOnFailure (keepBegun name o { w with session := s }) := by
  cases o with
  | ok t =>
    rw [keepBegun_ok]
    exact fun failed => failed.elim
  | error failure => exact fun _ => Session.Follows.openCount_eq follows

end Program

namespace Operation

variable [Driver σ]

theorem kept_perform (op : Operation σ) (w : Workspace σ) : w.KeptOnFailure (op.perform w) := by
  cases op with
  | begin name c isolation mode =>
    exact Program.kept_keepBegun fun id => Transaction.start_follows id mode c isolation w.session
  | adopt name c native mode =>
    exact Program.kept_keepBegun fun id => Transaction.adopt_follows id mode c native w.session
  | executeNonQuery name r mode =>
    refine Program.kept_withCommand fun c _ => ?_
    exact Statement.settled_openCount
      (Statement.executeOnce_settled Shape.nonQuery_faithful c.statement mode r w.session)
  | executeScalar name r mode =>
    refine Program.kept_withCommand fun c _ => ?_
    exact Statement.settled_openCount
      (Statement.executeOnce_settled Shape.scalar_faithful c.statement mode r w.session)
  | executeReader name r mode =>
    refine Program.kept_withCommand fun c failed => ?_
    have answer : Answer.Failed (.bound (c.executeReader mode r w.session).1.1 : Answer σ) := failed
    cases outcome : (c.executeReader mode r w.session).1.1 with
    | ok reader =>
      rw [outcome] at answer
      exact answer.elim
    | error failure => exact Command.executeReader_openCount outcome
  | createCommand name method r =>
    refine Program.kept_withCommand fun c _ => ?_
    have follows := fun id => c.statement.createCommand_follows id method r w.session
    exact Session.Follows.openCount_eq follows
  | complete name completion mode => exact Program.kept_withTransaction fun _ failed => failed.elim
  | disposeTransaction name mode => exact Program.kept_withTransaction fun _ failed => failed.elim
  | dropTransaction name => exact Program.kept_withTransaction fun _ failed => failed.elim
  | populate name statement => exact Program.kept_withCommand fun _ failed => failed.elim
  | dropCommand name => exact Program.kept_withCommand fun _ failed => failed.elim
  | read name mode => exact Program.kept_withReader fun _ _ failed => failed.elim
  | nextResult name mode => exact Program.kept_withReader fun _ _ failed => failed.elim
  | getValue name ordinal => exact Program.kept_withReader fun _ _ failed => failed.elim
  | isNull name ordinal => exact Program.kept_withReader fun _ _ failed => failed.elim
  | columnName name ordinal => exact Program.kept_withReader fun _ _ failed => failed.elim
  | drain name => exact Program.kept_withReader fun _ _ failed => failed.elim
  | disposeReader name mode => exact Program.kept_withReader fun _ _ failed => failed.elim
  | declare name statement =>
    rw [declare_apply]
    exact fun failed => failed.elim
  | _ => exact fun failed => failed.elim

end Operation

namespace Program

variable [Driver σ]

/-- As long as a program gives back no more opens of a connection than it took, the number of
opens between two operations is what it took and did not give back, and one for each reader
that is open on the connection and for each transaction on it that holds its open. What fails
changes no number. -/
theorem openCount_eq_holders (id : ConnectionId) (w : Workspace σ) (fresh : w.Fresh)
    (ops : List (Operation σ)) (own : ∀ n, closed id (ops.take n) ≤ opened id (ops.take n) w)
    (n : Nat) :
    (run (ops.take n) w).2.session.openCount id =
      opened id (ops.take n) w - closed id (ops.take n) +
        (run (ops.take n) w).2.openReaders id + (run (ops.take n) w).2.openTransactions id ∧
    ∀ op : Operation σ, (op.perform (run (ops.take n) w).2).1.Failed →
      (op.perform (run (ops.take n) w).2).2.session.openCount =
        (run (ops.take n) w).2.session.openCount := by
  have sound : w.Sound := fresh.sound
  have start : w.session.openCount id = w.held id := by
    rw [fresh.openCount, fresh.held]
  have accounts := (follows_run sound start ops own n).2
  have enough := own n
  refine ⟨?_, fun op => op.kept_perform _⟩
  unfold Workspace.held at accounts
  omega

theorem openCount_eq_holders_of_reader_in_transaction :
    let id : ConnectionId := ⟨0⟩
    let w : Workspace Script := .begun ⟨{}, none⟩
    let r : Request Script := { connection := id, logger := none, detailedErrors := false }
    let ops : List (Operation Script) := [.openConnection id .blocking,
      .begin "t" id .serializable .async, .declare "q" ⟨"SELECT 1", []⟩,
      .executeReader "q" r .async, .closeConnection id .async, .complete "t" .commit .blocking]
    w.Fresh ∧ (∀ n, closed id (ops.take n) ≤ opened id (ops.take n) w) ∧
      (run (ops.take 5) w).2.session.openCount id = 2 := by
  intro id w r ops
  have fresh : w.Fresh := ⟨rfl, rfl, fun _ => rfl⟩
  have own : ∀ n, closed id (ops.take n) ≤ opened id (ops.take n) w := by
    intro n
    by_cases short : n < 6
    · have all : ∀ n < 6, closed id (ops.take n) ≤ opened id (ops.take n) w := by
        decide +kernel +zetaReduce
      exact all n short
    · rw [List.take_of_length_le (by simp [ops]; omega)]
      decide +kernel +zetaReduce
  refine ⟨fresh, own, ?_⟩
  rw [(openCount_eq_holders id w fresh ops own 5).1]
  decide +kernel +zetaReduce

end Program

end SqlExecution
