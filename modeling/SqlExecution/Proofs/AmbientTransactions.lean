import SqlExecution.Proofs.OpenCalls
import SqlExecution.Proofs.Roster

/-! The ambient transaction of a connection, over whole programs: it is that of the wrapper that is
active there, and of no other. Everything else that a program does leaves it alone. -/

namespace SqlExecution

variable {σ α : Type}

open Session

namespace Session

variable {s t u : Session σ}

def ambient (s : Session σ) (c : ConnectionId) : Option Ambient := (s.connections c).ambient

/-- The ambient transactions stay, and no serial number is given out again. -/
structure KeepsAmbients (s t : Session σ) : Prop where
  ambient : t.ambient = s.ambient
  serials : s.nextSerial ≤ t.nextSerial

theorem KeepsAmbients.of_connections (connections : t.connections = s.connections)
    (serials : s.nextSerial ≤ t.nextSerial) : KeepsAmbients s t :=
  ⟨by unfold Session.ambient; rw [connections], serials⟩

instance : Law (KeepsAmbients : Session σ → Session σ → Prop) where
  trans first second :=
    ⟨second.ambient.trans first.ambient, Nat.le_trans first.serials second.serials⟩
  unseen _ _ connections serials := .of_connections connections serials
  traced _ _ := .of_connections rfl (Nat.le_refl _)

theorem ambient_setConnection (s : Session σ) (c : ConnectionId) (k : Connection σ) :
    (s.setConnection c k).ambient = Function.update s.ambient c k.ambient := by
  funext i
  by_cases here : i = c
  · subst here
    simp [ambient]
  · simp [ambient, setConnection_of_ne s here, here]

theorem keepsAmbients_setConnection {c : ConnectionId} {k : Connection σ}
    (same : k.ambient = s.ambient c) : KeepsAmbients s (s.setConnection c k) := by
  refine ⟨?_, Nat.le_refl _⟩
  rw [ambient_setConnection, same, Function.update_eq_self]

theorem lets_keepsAmbients (f : Scene σ → Scene σ) : Lets KeepsAmbients f :=
  fun _ => .of_connections rfl (Nat.le_refl _)

theorem allows_keepsAmbients [Driver σ] (call : NativeCall) :
    Allows (KeepsAmbients (σ := σ)) call :=
  ⟨fun _ => .of_connections rfl (Nat.le_refl _), lets_keepsAmbients _⟩

theorem eachHook_keepsAmbients (l : Logger σ) : l.EachHook (Lets KeepsAmbients) :=
  l.eachHook_of_forall lets_keepsAmbients

theorem serves_keepsAmbients [Driver σ] : Serves (KeepsAmbients (σ := σ)) where
  hears _ _ _ _ := .of_connections rfl (Nat.le_refl _)
  upkeep _ := allows_keepsAmbients _
  works _ := allows_keepsAmbients _
  takes _ _ := ConnectionId.obeys_acquire (allows_keepsAmbients _) fun _ _ =>
    keepsAmbients_setConnection rfl
  gives _ _ := ConnectionId.obeys_releaseOutcome (allows_keepsAmbients _) fun s => by
    refine keepsAmbients_setConnection ?_
    unfold Connection.released
    split <;> rfl

/-- The wrapper's own ambient transaction is gone, any other stays. -/
structure Cedes (t : Transaction σ) (s u : Session σ) : Prop where
  ambient : u.ambient = t.ceded s.ambient
  serials : s.nextSerial ≤ u.nextSerial

theorem Cedes.after {t : Transaction σ} {s u v : Session σ} (before : KeepsAmbients s u)
    (cedes : Cedes t u v) : Cedes t s v :=
  ⟨by rw [cedes.ambient, before.ambient], Nat.le_trans before.serials cedes.serials⟩

theorem Cedes.before {t : Transaction σ} {s u v : Session σ} (cedes : Cedes t s u)
    (after : KeepsAmbients u v) : Cedes t s v :=
  ⟨by rw [after.ambient, cedes.ambient], Nat.le_trans cedes.serials after.serials⟩

/-- A new wrapper took the place of the ambient transaction, which was free. -/
structure Enters (c : ConnectionId) (s : Session σ) (t : Transaction σ) (u : Session σ) : Prop where
  connection : t.connection = c
  free : s.ambient c = none
  active : t.state = .active
  fresh : s.nextSerial ≤ t.id.serial
  ambient : u.ambient = Function.update s.ambient c (some t.asAmbient)
  serials : t.id.serial < u.nextSerial

end Session

namespace Transaction

/-- What an operation on a wrapper may do to it and to the ambient transactions. -/
inductive Turn (t : Transaction σ) (s : Session σ) : Transaction σ → Session σ → Prop where
  | stays {u : Session σ} (keeps : KeepsAmbients s u) : Turn t s t u
  | ends {t' : Transaction σ} {u : Session σ} (same : t'.id = t.id) (ended : t'.state ≠ .active)
      (cedes : Cedes t s u) : Turn t s t' u

theorem wrap_apply (c : ConnectionId) (native : NativeTransaction) (id : TransactionId)
    (owned : Bool) (s : Session σ) :
    let t := (wrap c native id owned s).1
    t.connection = c ∧ t.state = .active ∧ t.asAmbient = ⟨native, id⟩ ∧
      (wrap c native id owned s).2.ambient = Function.update s.ambient c (some ⟨native, id⟩) ∧
      (wrap c native id owned s).2.nextSerial = s.nextSerial := by
  have placed := ambient_setConnection s c { s.connections c with ambient := some ⟨native, id⟩ }
  unfold wrap
  simp only [Engine.bind_apply]
  split
  · exact ⟨rfl, rfl, rfl, placed, rfl⟩
  · exact ⟨rfl, rfl, rfl, placed, rfl⟩

theorem wrap_enters {c : ConnectionId} {native : NativeTransaction} {serial : Nat}
    {s t : Session σ} (free : s.ambient c = none) (keeps : KeepsAmbients s t)
    (fresh : s.nextSerial ≤ serial) (minted : serial < t.nextSerial) (owned : Bool) :
    s.Enters c (wrap c native ⟨serial⟩ owned t).1 (wrap c native ⟨serial⟩ owned t).2 := by
  obtain ⟨connection, active, is, ambient, serials⟩ := wrap_apply c native ⟨serial⟩ owned t
  have same : (wrap c native ⟨serial⟩ owned t).1.id = ⟨serial⟩ := congrArg Ambient.id is
  refine ⟨connection, free, active, ?_, ?_, ?_⟩
  · rwa [same]
  · rw [ambient, is, keeps.ambient]
  · rwa [same, serials]

theorem ambient_ceased (t : Transaction σ) (k : Connection σ) :
    (if k.ambient.any (·.id = t.id) then { k with ambient := none } else k).ambient =
      k.ambient.filter (·.id ≠ t.id) := by
  cases found : k.ambient with
  | none => simpa using found
  | some a => by_cases own : a.id = t.id <;> simp [own, found, Option.filter]

theorem serialized_keepsAmbients (s : Session σ) : KeepsAmbients s (serialized s) :=
  .of_connections rfl (Nat.le_succ _)

/-- From wherever it starts, a computation is a turn of the wrapper. -/
def Turns (t : Transaction σ) (m : Engine σ (Outcome Unit × Transaction σ)) : Prop :=
  ∀ s u, KeepsAmbients s u → t.Turn s (m u).1.2 (m u).2

theorem turns_stay (t : Transaction σ) (o : Outcome Unit) : t.Turns (pure (o, t)) :=
  fun _ _ before => .stays before

theorem turns_after {t : Transaction σ} {m : Engine σ α}
    {f : α → Engine σ (Outcome Unit × Transaction σ)} (first : Engine.Obeys KeepsAmbients m)
    (rest : ∀ a, t.Turns (f a)) : t.Turns (m >>= f) :=
  fun _ _ before => rest _ _ _ (Law.trans before (first _))

variable [Driver σ] {c : ConnectionId} {a : Ambient} {s u : Session σ} {t : Transaction σ}

theorem start_of_ambient (found : s.ambient c = some a) (mode : Mode)
    (isolation : IsolationLevel) :
    (start mode c isolation).observe s = (.error (.error a.alreadyStarted), s) := by
  unfold start
  rw [Attempt.observe_bind_apply, ensureNone_apply]
  change (s.connections c).ambient = some a at found
  rw [found]

theorem adopt_of_ambient (found : s.ambient c = some a) (mode : Mode)
    (native : NativeTransaction) :
    (adopt mode c native).observe s = (.error (.error a.alreadyStarted), s) := by
  unfold adopt
  rw [Attempt.observe_bind_apply, ensureNone_apply]
  change (s.connections c).ambient = some a at found
  rw [found]

theorem free_of_start {mode : Mode} {isolation : IsolationLevel}
    (starts : (start mode c isolation).observe s = (.ok t, u)) : s.ambient c = none := by
  cases found : s.ambient c with
  | none => rfl
  | some a =>
    rw [start_of_ambient found] at starts
    cases starts

theorem beginNative_keepsAmbients (mode : Mode) (c : ConnectionId) (isolation : IsolationLevel)
    (id : TransactionId) :
    Attempt.Obeys (KeepsAmbients (σ := σ)) (beginNative mode c isolation id) :=
  fun _ => beginNative_obeys serves_keepsAmbients.hears (allows_keepsAmbients _) id
    fun l _ => eachHook_keepsAmbients l

theorem start_turn (mode : Mode) (c : ConnectionId) (isolation : IsolationLevel) (s : Session σ) :
    match (start mode c isolation).observe s with
    | (.ok t, u) => s.Enters c t u
    | (.error _, u) => KeepsAmbients s u := by
  have beginning := start_beginning mode c isolation s
  have taken := serves_keepsAmbients.takes mode c s
  rcases starts : (start mode c isolation).observe s with ⟨failure | t, u⟩
  all_goals rw [starts] at beginning
  · dsimp only at beginning ⊢
    cases beginning with
    | unentered => exact Law.refl s
    | unopened stops => rwa [stops] at taken
    | @unbegun _ _ v w opens stops =>
      rw [opens] at taken
      have begun := beginNative_keepsAmbients mode c isolation ⟨v.nextSerial⟩ (serialized v)
      rw [stops] at begun
      have released := obeys_releaseAfterFailure (serves_keepsAmbients.gives mode c) w
      exact Law.trans (Law.trans taken (serialized_keepsAmbients v)) (Law.trans begun released)
  · dsimp only at beginning ⊢
    have free := free_of_start starts
    cases beginning with
    | @begun _ native v w opens begins =>
      rw [opens] at taken
      have begun := beginNative_keepsAmbients mode c isolation ⟨v.nextSerial⟩ (serialized v)
      rw [begins] at begun
      have keeps := Law.trans (Law.trans taken (serialized_keepsAmbients v)) begun
      exact wrap_enters free keeps taken.serials begun.serials true

theorem adopt_turn (mode : Mode) (c : ConnectionId) (native : NativeTransaction) (s : Session σ) :
    match (adopt mode c native).observe s with
    | (.ok t, u) => s.Enters c t u
    | (.error _, u) => KeepsAmbients s u := by
  cases free : s.ambient c with
  | some a =>
    rw [adopt_of_ambient free]
    exact Law.refl s
  | none =>
    have taken := serves_keepsAmbients.takes mode c s
    unfold adopt
    rw [Attempt.observe_bind_apply, ensureNone_apply]
    change (s.connections c).ambient = none at free
    rw [free]
    dsimp only
    rcases opens : (c.acquire mode).observe s with ⟨failure | opened, v⟩
    all_goals rw [opens] at taken
    · rw [Attempt.observe_bind_error opens]
      exact taken
    · rw [Attempt.observe_bind_ok opens, Attempt.observe_lift_bind, Attempt.observe_bind_apply]
      have traced : Attempt.Obeys (KeepsAmbients (σ := σ)) (Attempt.trace .debug
          Trace.transactionTarget "Using external transaction"
          [Trace.connectionField c, Trace.transactionField ⟨v.nextSerial⟩]) :=
        Attempt.obeys_trace _ _ _ _
      have noted := traced (serialized v)
      have keeps := Law.trans (Law.trans taken (serialized_keepsAmbients v)) noted
      exact wrap_enters free keeps taken.serials noted.serials false

theorem clear_cedes (mode : Mode) (t : Transaction σ) (s : Session σ) :
    Cedes t s (t.clear mode s).2 := by
  have ceased : Cedes t s (s.setConnection t.connection
      ((fun k => if k.ambient.any (·.id = t.id) then { k with ambient := none } else k)
        (s.connections t.connection))) := by
    refine ⟨?_, Nat.le_refl _⟩
    rw [ambient_setConnection, ambient_ceased]
    funext c
    by_cases here : c = t.connection
    · subst here
      rw [Function.update_self, ceded, if_pos rfl]
      rfl
    · rw [Function.update_of_ne here, ceded, if_neg here]
  have rest : Engine.Obeys (KeepsAmbients (σ := σ)) (do
      if t.released then return (.ok (), t)
      return (← t.connection.releaseOutcome mode, { t with released := true }) :
        Engine σ (Outcome Unit × Transaction σ)) := by
    split
    · exact .pure _
    · exact (serves_keepsAmbients.gives mode _).bind fun _ => .pure _
  exact ceased.before (rest _)

theorem clear_id (mode : Mode) (t : Transaction σ) :
    Engine.Yields (fun x => x.2.id = t.id) (t.clear mode) := by
  refine Engine.Yields.after _ fun _ => ?_
  split
  · exact fun _ => rfl
  · exact Engine.Yields.after _ fun _ _ => rfl

theorem turns_clear (mode : Mode) {state : TransactionState} (ended : state ≠ .active)
    (t : Transaction σ) : t.Turns (clear mode { t with state }) := by
  intro s u before
  refine .ends (clear_id mode { t with state } u) ?_ (.after before ?_)
  · rw [clear_state mode { t with state } u]
    exact ended
  · obtain ⟨ambient, serials⟩ := clear_cedes mode { t with state } u
    exact ⟨ambient, serials⟩

theorem turns_complete (mode : Mode) (completion : Completion) (t : Transaction σ) :
    t.Turns (t.complete mode completion) := by
  have called : Engine.Obeys (KeepsAmbients (σ := σ)) (Attempt.call
      (completion.note t.native mode) mode (completion.native t.native)).observe :=
    Attempt.obeys_call (allows_keepsAmbients _) (effect_note completion t.native mode)
  have ended : completion.state ≠ .active := by cases completion <;> exact nofun
  unfold complete
  split
  · exact turns_stay t _
  · refine turns_after Engine.obeys_get fun s => ?_
    split
    · exact turns_stay t _
    · refine turns_after called fun o => ?_
      rcases o with failure | _
      · cases failure with
        | error e => exact turns_after (Engine.obeys_trace _ _ _ _) fun _ => turns_stay t _
        | cancelled reason => exact turns_stay t _
        | panicked message => exact turns_stay t _
      · exact turns_after (Engine.obeys_trace _ _ _ _) fun _ => turns_clear mode ended t

theorem dispose_cedes (mode : Mode) {t : Transaction σ} (holds : t.state ≠ .disposed)
    (s : Session σ) :
    (t.dispose mode s).1.2.id = t.id ∧ (t.dispose mode s).1.2.state = .disposed ∧
      Cedes t s (t.dispose mode s).2 := by
  have aborts : Engine.Obeys (KeepsAmbients (σ := σ)) (t.abort mode) :=
    obeys_abort fun _ => allows_keepsAmbients _
  unfold dispose
  rw [if_neg holds]
  obtain ⟨ambient, serials⟩ := clear_cedes mode { t with state := .disposed } (t.abort mode s).2
  exact ⟨clear_id mode { t with state := .disposed } _,
    clear_state mode { t with state := .disposed } _, .after (aborts s) ⟨ambient, serials⟩⟩

theorem dispose_of_disposed (mode : Mode) {t : Transaction σ} (spent : t.state = .disposed)
    (s : Session σ) : t.dispose mode s = ((.ok (), t), s) := by
  unfold dispose
  rw [if_pos spent]
  rfl

theorem dispose_turn (mode : Mode) (t : Transaction σ) (s : Session σ) :
    t.Turn s (t.dispose mode s).1.2 (t.dispose mode s).2 := by
  by_cases spent : t.state = .disposed
  · rw [dispose_of_disposed mode spent]
    exact .stays (Law.refl s)
  · obtain ⟨same, state, cedes⟩ := dispose_cedes mode spent s
    refine .ends same ?_ cedes
    rw [state]
    exact nofun

theorem drop_cedes {t : Transaction σ} (holds : t.state ≠ .disposed) (s : Session σ) :
    Cedes t s (t.drop s).2 := by
  unfold drop
  rw [if_neg holds]
  refine (dispose_cedes .blocking holds s).2.2.before ?_
  rw [Engine.bind_apply]
  cases (t.dispose .blocking s).1.1 with
  | error failure => exact Engine.obeys_trace _ _ _ _ _
  | ok _ => exact Law.refl _

theorem drop_of_disposed {t : Transaction σ} (spent : t.state = .disposed) (s : Session σ) :
    (t.drop s).2 = s := by
  unfold drop
  rw [if_pos spent]
  rfl

end Transaction

namespace Workspace

variable {w w' : Workspace σ} {s : Session σ} {name : String} {t t' : Transaction σ}

/-- No transaction was begun yet, by the program or before. -/
structure Unstarted (w : Workspace σ) : Prop where
  transactions : w.transactions = []
  ambient (c : ConnectionId) : (w.session.connections c).ambient = none

def roster (w : Workspace σ) : Roster σ where
  ambient := w.session.ambient
  nextSerial := w.session.nextSerial
  kept name := Named.find? name w.transactions

theorem kept_insert (name : String) (t : Transaction σ) (entries : List (String × Transaction σ)) :
    (fun k => Named.find? k (Named.insert name t entries)) =
      Function.update (fun k => Named.find? k entries) name (some t) := by
  funext k
  by_cases here : k = name
  · subst here
    rw [Function.update_self, Named.find?_insert_same]
  · rw [Function.update_of_ne here, Named.find?_insert_of_ne here]

theorem kept_erase (name : String) (entries : List (String × Transaction σ)) :
    (fun k => Named.find? k (Named.erase name entries)) =
      Function.update (fun k => Named.find? k entries) name none := by
  funext k
  by_cases here : k = name
  · subst here
    rw [Function.update_self, Named.find?_erase_same]
  · rw [Function.update_of_ne here, Named.find?_erase_of_ne here]

theorem Unstarted.consistent (unstarted : w.Unstarted) : w.roster.Consistent := by
  have nobody : ∀ name, w.roster.kept name = none := fun name => by
    rw [roster, unstarted.transactions]
    rfl
  refine ⟨fun kept => ?_, fun kept => ?_, fun c a => ⟨fun found => ?_, ?_⟩⟩
  · rw [nobody] at kept
    cases kept
  · rw [nobody] at kept
    cases kept
  · cases (unstarted.ambient c).symm.trans found
  · rintro ⟨name, t, kept, _⟩
    rw [nobody] at kept
    cases kept

/-- Nothing happened to transactions. -/
structure Aside (w w' : Workspace σ) : Prop where
  session : KeepsAmbients w.session w'.session
  transactions : w'.transactions = w.transactions

theorem Aside.refl (w : Workspace σ) : w.Aside w := ⟨Law.refl _, rfl⟩

theorem Aside.consistent (aside : w.Aside w') (consistent : w.roster.Consistent) :
    w'.roster.Consistent := by
  unfold roster
  rw [aside.session.ambient, aside.transactions]
  exact consistent.mint aside.session.serials

theorem consistent_turn (consistent : w.roster.Consistent)
    (found : Named.find? name w.transactions = some t) (turn : t.Turn w.session t' s) :
    { w with
      session := s
      transactions := Named.insert name t' w.transactions }.roster.Consistent := by
  unfold roster
  dsimp only
  rw [kept_insert]
  cases turn with
  | stays keeps =>
    rw [Function.update_eq_iff.2 ⟨found.symm, fun _ _ => rfl⟩, keeps.ambient]
    exact consistent.mint keeps.serials
  | ends same ended cedes =>
    rw [cedes.ambient]
    refine Roster.Consistent.mint (consistent.cede found fun u is => ?_) cedes.serials
    cases is
    exact ⟨same, ended⟩

variable [Driver σ]

omit [Driver σ] in
theorem cedes_of_disposed (consistent : w.roster.Consistent)
    (found : Named.find? name w.transactions = some t) (spent : t.state = .disposed) :
    Cedes t w.session w.session := by
  have ended : t.state ≠ .active := by
    rw [spent]
    exact nofun
  exact ⟨(consistent.ceded_of_inactive found ended).symm, Nat.le_refl _⟩

theorem dispose_cedes (consistent : w.roster.Consistent)
    (found : Named.find? name w.transactions = some t) (mode : Mode) :
    Cedes t w.session (t.dispose mode w.session).2 := by
  by_cases spent : t.state = .disposed
  · rw [Transaction.dispose_of_disposed mode spent]
    exact cedes_of_disposed consistent found spent
  · exact (Transaction.dispose_cedes mode spent w.session).2.2

theorem drop_cedes (consistent : w.roster.Consistent)
    (found : Named.find? name w.transactions = some t) :
    Cedes t w.session (t.drop w.session).2 := by
  by_cases spent : t.state = .disposed
  · rw [Transaction.drop_of_disposed spent]
    exact cedes_of_disposed consistent found spent
  · exact Transaction.drop_cedes spent w.session

theorem consistent_drop (consistent : w.roster.Consistent)
    (found : Named.find? name w.transactions = some t) :
    { w with
      session := (t.drop w.session).2
      transactions := Named.erase name w.transactions }.roster.Consistent := by
  have cedes := drop_cedes consistent found
  unfold roster
  dsimp only
  rw [kept_erase, cedes.ambient]
  exact Roster.Consistent.mint (consistent.cede found fun u is => by cases is) cedes.serials

theorem consistent_begun {c : ConnectionId} (consistent : w.roster.Consistent)
    (enters : w.session.Enters c t s) :
    (Program.keepBegun name (.ok t) { w with session := s }).2.roster.Consistent := by
  -- A new wrapper takes the name of an old one, which is dropped after the new one began.
  obtain ⟨rfl, free, active, fresh, ambient, serials⟩ := enters
  rw [Program.keepBegun_ok]
  unfold roster
  dsimp only
  rw [kept_insert]
  cases found : Named.find? name w.transactions with
  | none =>
    rw [Option.elim_none, ambient]
    exact (consistent.enter found free active fresh).mint serials
  | some old =>
    rw [Option.elim_some]
    have left : Roster.Consistent { w.roster with
        ambient := old.ceded w.session.ambient
        kept := Function.update w.roster.kept name none } :=
      consistent.cede found fun u is => by cases is
    have newer : t.asAmbient.id ≠ old.id := fun same => by
      have before : old.id.serial < w.session.nextSerial := consistent.minted found
      have here : t.id.serial = old.id.serial := congrArg TransactionId.serial same
      omega
    have dropped : (old.drop s).2.ambient =
        Function.update (old.ceded w.session.ambient) t.connection (some t.asAmbient) ∧
          s.nextSerial ≤ (old.drop s).2.nextSerial := by
      by_cases spent : old.state = .disposed
      · have ended : old.state ≠ .active := by
          rw [spent]
          exact nofun
        have still : old.ceded w.session.ambient = w.session.ambient :=
          consistent.ceded_of_inactive found ended
        rw [Transaction.drop_of_disposed spent, still]
        exact ⟨ambient, Nat.le_refl _⟩
      · have cedes := Transaction.drop_cedes spent s
        refine ⟨?_, cedes.serials⟩
        rw [cedes.ambient, ambient, Transaction.ceded_update newer]
    have vacated : old.ceded w.session.ambient t.connection = none := by
      unfold Transaction.ceded
      rw [free]
      split <;> rfl
    have vacant : Function.update w.roster.kept name none name = none := Function.update_self ..
    have entered := left.enter vacant vacated active fresh
    rw [Function.update_idem] at entered
    rw [dropped.1]
    exact entered.mint (Nat.le_trans serials dropped.2)

end Workspace

namespace Operation

/-- The operation begins or ends a transaction. -/
def transacts : Operation σ → Bool
  | begin _ _ _ _ => true
  | adopt _ _ _ _ => true
  | complete _ _ _ => true
  | disposeTransaction _ _ => true
  | dropTransaction _ => true
  | _ => false

variable [Driver σ] {w : Workspace σ} {name : String}

theorem aside_withReader (use : ReaderUse σ)
    {act : DataReader σ → Engine σ (Answer σ × DataReader σ)}
    (acts : ∀ r s, ((act r s).1.2, (act r s).2) = use.perform r s) :
    w.Aside (Program.withReader name act w).2 := by
  refine Program.withCommand_cases (P := fun x => w.Aside x.2) (.refl w) fun c found => ?_
  cases reader : c.reader with
  | none => exact .refl w
  | some r =>
    have session : (act r w.session).2 = (use.perform r w.session).2 :=
      congrArg Prod.snd (acts r w.session)
    have used : Engine.Obeys (KeepsAmbients (σ := σ)) (use.perform r) :=
      ReaderUse.perform_obeys serves_keepsAmbients fun l _ => eachHook_keepsAmbients l
    refine ⟨?_, rfl⟩
    change KeepsAmbients w.session (act r w.session).2
    rw [session]
    exact used w.session

theorem perform_aside (op : Operation σ) (other : op.transacts = false) (w : Workspace σ) :
    w.Aside (op.perform w).2 := by
  have hooks : ∀ l : Logger σ, l.EachHook (Lets KeepsAmbients) := eachHook_keepsAmbients
  have dropped : ∀ c : Command σ, Engine.Obeys (KeepsAmbients (σ := σ)) c.drop := fun _ =>
    Command.obeys_drop serves_keepsAmbients.dismisses fun l _ => hooks l
  have with_command : ∀ {name act}, (∀ c, w.Aside (act c w).2) →
      w.Aside (Program.withCommand name act w).2 := fun each =>
    Program.withCommand_cases (P := fun x => w.Aside x.2) (.refl w) fun c _ => each c
  cases op with
  | begin | adopt | complete | disposeTransaction | dropTransaction => cases other
  | limitTrace limit => exact ⟨.of_connections rfl (Nat.le_refl _), rfl⟩
  | setCancelled reason => exact ⟨.of_connections rfl (Nat.le_refl _), rfl⟩
  | openNative c mode => exact ⟨.of_connections rfl (Nat.le_refl _), rfl⟩
  | closeNative c mode => exact ⟨.of_connections rfl (Nat.le_refl _), rfl⟩
  | openConnection c mode => exact ⟨serves_keepsAmbients.takes mode c w.session, rfl⟩
  | closeConnection c mode => exact ⟨serves_keepsAmbients.gives mode c w.session, rfl⟩
  | declare name statement =>
    rw [declare_apply]
    refine ⟨?_, rfl⟩
    cases Named.find? name w.commands with
    | none => exact Law.refl _
    | some old => exact dropped old w.session
  | populate name statement => exact with_command fun c => ⟨Law.refl _, rfl⟩
  | dropCommand name => exact with_command fun c => ⟨dropped c w.session, rfl⟩
  | executeNonQuery name r mode =>
    exact with_command fun c => ⟨Statement.obeys_executeOnce serves_keepsAmbients
      Shape.nonQuery_faithful (fun l _ => hooks l) c.statement mode w.session, rfl⟩
  | executeScalar name r mode =>
    exact with_command fun c => ⟨Statement.obeys_executeOnce serves_keepsAmbients
      Shape.scalar_faithful (fun l _ => hooks l) c.statement mode w.session, rfl⟩
  | executeReader name r mode =>
    exact with_command fun c => ⟨Command.obeys_executeReader serves_keepsAmbients
      (fun l _ => hooks l) (fun l _ => hooks l) mode w.session, rfl⟩
  | createCommand name method r =>
    exact with_command fun c => ⟨Statement.obeys_createCommand serves_keepsAmbients.prepares
      (fun l _ => hooks l) c.statement method w.session, rfl⟩
  | read name mode => exact aside_withReader (.read mode) fun _ _ => rfl
  | nextResult name mode => exact aside_withReader (.nextResult mode) fun _ _ => rfl
  | getValue name ordinal => exact aside_withReader (.getValue ordinal) fun _ _ => rfl
  | isNull name ordinal => exact aside_withReader (.isNull ordinal) fun _ _ => rfl
  | columnName name ordinal => exact aside_withReader (.columnName ordinal) fun _ _ => rfl
  | drain name => exact aside_withReader .drain fun _ _ => rfl
  | disposeReader name mode => exact aside_withReader (.dispose mode) fun _ _ => rfl

theorem perform_consistent (op : Operation σ) (consistent : w.roster.Consistent) :
    (op.perform w).2.roster.Consistent := by
  have with_transaction : ∀ {name act},
      (∀ t, Named.find? name w.transactions = some t → (act t w).2.roster.Consistent) →
      (Program.withTransaction name act w).2.roster.Consistent :=
    Program.withTransaction_cases (P := fun x => x.2.roster.Consistent) consistent
  cases op with
  | begin name c isolation mode =>
    have turn := Transaction.start_turn mode c isolation w.session
    rcases starts : (Transaction.start mode c isolation).observe w.session with ⟨failure | t, s⟩
    all_goals
      rw [starts] at turn
      change (Program.keepBegun name ((Transaction.start mode c isolation).observe w.session).1
        { w with session := ((Transaction.start mode c isolation).observe w.session).2 }
        ).2.roster.Consistent
      rw [starts]
    · exact Workspace.Aside.consistent ⟨turn, rfl⟩ consistent
    · exact Workspace.consistent_begun consistent turn
  | adopt name c native mode =>
    have turn := Transaction.adopt_turn mode c native w.session
    rcases adopts : (Transaction.adopt mode c native).observe w.session with ⟨failure | t, s⟩
    all_goals
      rw [adopts] at turn
      change (Program.keepBegun name ((Transaction.adopt mode c native).observe w.session).1
        { w with session := ((Transaction.adopt mode c native).observe w.session).2 }
        ).2.roster.Consistent
      rw [adopts]
    · exact Workspace.Aside.consistent ⟨turn, rfl⟩ consistent
    · exact Workspace.consistent_begun consistent turn
  | complete name completion mode =>
    refine with_transaction fun t found => ?_
    have turn := t.turns_complete mode completion _ _ (Law.refl w.session)
    have kept := Workspace.consistent_turn consistent found turn
    exact kept
  | disposeTransaction name mode =>
    refine with_transaction fun t found => ?_
    have kept := Workspace.consistent_turn consistent found (t.dispose_turn mode w.session)
    exact kept
  | dropTransaction name =>
    exact with_transaction fun t found => Workspace.consistent_drop consistent found
  | _ => exact (perform_aside _ rfl w).consistent consistent

theorem perform_sorted (op : Operation σ) (sorted : Named.Sorted w.transactions) :
    Named.Sorted (op.perform w).2.transactions := by
  have begun : ∀ name (x : Outcome (Transaction σ) × Session σ),
      Named.Sorted (Program.keepBegun name x.1 { w with session := x.2 }).2.transactions := by
    rintro name ⟨failure | t, s⟩
    · exact sorted
    · rw [Program.keepBegun_ok]
      exact Named.sorted_insert sorted name t
  have with_transaction : ∀ {name act},
      (∀ t, Named.Sorted (act t w).2.transactions) →
      Named.Sorted (Program.withTransaction name act w).2.transactions := fun each =>
    Program.withTransaction_cases (P := fun x => Named.Sorted x.2.transactions) sorted
      fun t _ => each t
  cases op with
  | begin name c isolation mode =>
    exact begun name ((Transaction.start mode c isolation).observe w.session)
  | adopt name c native mode =>
    exact begun name ((Transaction.adopt mode c native).observe w.session)
  | complete name completion mode =>
    exact with_transaction fun t => Named.sorted_insert sorted name _
  | disposeTransaction name mode =>
    exact with_transaction fun t => Named.sorted_insert sorted name _
  | dropTransaction name => exact with_transaction fun t => Named.sorted_erase sorted name
  | _ =>
    rw [(perform_aside _ rfl w).transactions]
    exact sorted

end Operation

namespace Workspace

/-- The wrappers that are active on the connection, under their names. -/
def actives (c : ConnectionId) (w : Workspace σ) : List (String × Transaction σ) :=
  w.transactions.filter fun e => e.2.state = .active ∧ e.2.connection = c

/-- A connection has at most one active wrapper, whose native transaction and identifier it has as
its ambient ones. Without one, it has none. -/
def AmbientIsActive (w : Workspace σ) : Prop :=
  ∀ c, (∃ e, w.actives c = [e] ∧
      (w.session.connections c).ambient = some ⟨e.2.native, e.2.id⟩) ∨
    w.actives c = [] ∧ (w.session.connections c).ambient = none

variable {w : Workspace σ} {c : ConnectionId}

theorem mem_actives_iff (sorted : Named.Sorted w.transactions) {e : String × Transaction σ} :
    e ∈ w.actives c ↔ w.roster.kept e.1 = some e.2 ∧ e.2.state = .active ∧ e.2.connection = c := by
  unfold actives
  rw [List.mem_filter, decide_eq_true_iff]
  exact and_congr_left' ⟨Named.find?_of_mem sorted, Named.mem_of_find?⟩

theorem ambient_of_active (sorted : Named.Sorted w.transactions) (consistent : w.roster.Consistent)
    {e : String × Transaction σ} (member : e ∈ w.actives c) :
    w.session.ambient c = some e.2.asAmbient := by
  obtain ⟨kept, active, here⟩ := (mem_actives_iff sorted).1 member
  exact (consistent.ambient c _).2 ⟨e.1, e.2, kept, active, here, rfl⟩

theorem ambientIsActive (sorted : Named.Sorted w.transactions) (consistent : w.roster.Consistent) :
    w.AmbientIsActive := by
  intro c
  have ordered : Named.Sorted (w.actives c) := sorted.filter _
  rcases found : w.actives c with _ | ⟨e, _ | ⟨e', rest⟩⟩
  · refine .inr ⟨rfl, Option.eq_none_iff_forall_ne_some.2 fun a there => ?_⟩
    obtain ⟨name, t, kept, active, here, _⟩ := (consistent.ambient c a).1 there
    have member : (name, t) ∈ w.actives c := (mem_actives_iff sorted).2 ⟨kept, active, here⟩
    rw [found] at member
    cases member
  · refine .inl ⟨e, rfl, ambient_of_active sorted consistent ?_⟩
    rw [found]
    exact List.mem_singleton_self e
  · -- Two names in order differ, and two active wrappers of a connection have the same one.
    rw [found] at ordered
    have before := (List.pairwise_cons.1 ordered).1 e' (List.mem_cons_self ..)
    have first : e ∈ w.actives c := by simp [found]
    have second : e' ∈ w.actives c := by simp [found]
    obtain ⟨kept, active, here⟩ := (mem_actives_iff sorted).1 first
    obtain ⟨kept', active', here'⟩ := (mem_actives_iff sorted).1 second
    have same := consistent.single kept kept' active active' (here.trans here'.symm)
    exact absurd (same ▸ before) (String.lt_irrefl _)

end Workspace

namespace Operation

variable [Driver σ] {w : Workspace σ} {name : String} {t : Transaction σ}

/-- A wrapper that is let go takes its own ambient transaction along if it is active, and no other
one ever. -/
theorem ambient_of_letting_go (consistent : w.roster.Consistent)
    (found : Named.find? name w.transactions = some t) {op : Operation σ} {mode : Mode}
    (goes : op ∈ [disposeTransaction name mode, dropTransaction name]) (c : ConnectionId) :
    ((op.perform w).2.session.connections c).ambient =
      if t.state = .active ∧ c = t.connection then none
      else (w.session.connections c).ambient := by
  have cedes : Cedes t w.session (op.perform w).2.session := by
    rcases List.mem_cons.1 goes with rfl | drops
    · change Cedes t w.session (Program.withTransaction name _ w).2.session
      rw [Program.withTransaction_found found]
      exact Workspace.dispose_cedes consistent found mode
    · cases List.mem_singleton.1 drops
      change Cedes t w.session (Program.withTransaction name _ w).2.session
      rw [Program.withTransaction_found found]
      exact Workspace.drop_cedes consistent found
  change (op.perform w).2.session.ambient c = _
  rw [cedes.ambient]
  by_cases active : t.state = .active
  · simp only [active, true_and]
    exact consistent.ceded_of_active found active c
  · rw [if_neg fun both => active both.1]
    exact congrFun (consistent.ceded_of_inactive found active) c

theorem turned_away {c : ConnectionId} {a : Ambient}
    (taken : (w.session.connections c).ambient = some a) {op : Operation σ} {mode : Mode}
    {isolation : IsolationLevel} {native : NativeTransaction}
    (asks : op ∈ [begin name c isolation mode, adopt name c native mode]) :
    op.perform w = (.begun (.error (.error a.alreadyStarted)), w) := by
  rcases List.mem_cons.1 asks with rfl | adopts
  · change Program.keepBegun name ((Transaction.start mode c isolation).observe w.session).1
      { w with session := ((Transaction.start mode c isolation).observe w.session).2 } = _
    rw [Transaction.start_of_ambient taken]
    rfl
  · cases List.mem_singleton.1 adopts
    change Program.keepBegun name ((Transaction.adopt mode c native).observe w.session).1
      { w with session := ((Transaction.adopt mode c native).observe w.session).2 } = _
    rw [Transaction.adopt_of_ambient taken]
    rfl

end Operation

namespace Program

variable [Driver σ] {w : Workspace σ}

theorem run_sorted (sorted : Named.Sorted w.transactions) (ops : List (Operation σ)) :
    Named.Sorted (run ops w).2.transactions := by
  induction ops generalizing w with
  | nil => exact sorted
  | cons op ops ih =>
    rw [run_cons]
    exact ih (op.perform_sorted sorted)

theorem run_consistent (consistent : w.roster.Consistent) (ops : List (Operation σ)) :
    (run ops w).2.roster.Consistent := by
  induction ops generalizing w with
  | nil => exact consistent
  | cons op ops ih =>
    rw [run_cons]
    exact ih (op.perform_consistent consistent)

/-- Wherever a program has come to, the ambient transactions are those of the active wrappers.
Disposing or dropping a wrapper ends the ambient transaction of its connection just if the wrapper
is active, and of no other connection. While a wrapper is active on a connection, beginning another
transaction there or taking part in one fails, and nothing else happens. -/
theorem ambient_is_active (w : Workspace σ) (unstarted : w.Unstarted) (ops : List (Operation σ))
    (reached : Workspace σ) (reaches : (run ops w).2 = reached) :
    reached.AmbientIsActive ∧
    (∀ name t, Named.find? name reached.transactions = some t →
      ∀ mode, ∀ op ∈ [Operation.disposeTransaction name mode, .dropTransaction name], ∀ c,
        ((op.perform reached).2.session.connections c).ambient =
          if t.state = .active ∧ c = t.connection then none
          else (reached.session.connections c).ambient) ∧
    ∀ c, ∀ e ∈ reached.actives c, ∀ name isolation native mode,
      ∀ op ∈ [Operation.begin name c isolation mode, .adopt name c native mode],
        op.perform reached =
          (.begun (.error (.error (Ambient.alreadyStarted ⟨e.2.native, e.2.id⟩))), reached) := by
  subst reaches
  have sorted : Named.Sorted (run ops w).2.transactions := by
    refine run_sorted ?_ ops
    rw [unstarted.transactions]
    exact Named.sorted_nil
  have consistent := run_consistent unstarted.consistent ops
  refine ⟨Workspace.ambientIsActive sorted consistent, fun name t found mode op goes c => ?_,
    fun c e member name isolation native mode op asks => ?_⟩
  · exact op.ambient_of_letting_go consistent found goes c
  · exact op.turned_away (Workspace.ambient_of_active sorted consistent member) asks

omit [Driver σ] in
/-- A wrapper is dropped that was rolled back before another transaction began on its connection. -/
theorem ambient_is_active_after_stale_drop :
    let id : ConnectionId := ⟨0⟩
    let w : Workspace Script := .begun ⟨{}, none⟩
    let ops : List (Operation Script) := [.begin "t" id .serializable .async,
      .complete "t" .rollback .blocking, .begin "u" id .serializable .blocking]
    let reached := (run ops w).2
    w.Unstarted ∧ reached.AmbientIsActive ∧ (reached.session.connections id).ambient.isSome ∧
      (((Operation.dropTransaction "t").perform reached).2.session.connections id).ambient =
        (reached.session.connections id).ambient := by
  intro id w ops reached
  have unstarted : w.Unstarted := ⟨rfl, fun _ => rfl⟩
  obtain ⟨ambient, stale, -⟩ := ambient_is_active w unstarted ops reached rfl
  have ended : ∀ t ∈ Named.find? "t" reached.transactions, t.state ≠ .active := by
    decide +kernel +zetaReduce
  have present : (Named.find? "t" reached.transactions).isSome = true := by
    decide +kernel +zetaReduce
  have newer : (reached.session.connections id).ambient.isSome = true := by
    decide +kernel +zetaReduce
  obtain ⟨t, found⟩ := Option.isSome_iff_exists.1 present
  have kept := stale "t" t found .blocking _ (List.mem_cons_of_mem _ (List.mem_singleton_self _)) id
  rw [if_neg fun both => ended t found both.1] at kept
  exact ⟨unstarted, ambient, newer, kept⟩

end Program

end SqlExecution
