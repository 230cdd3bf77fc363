import SqlExecution.Proofs.CommandRelease
import SqlExecution.Proofs.Laws.Holders

/-! Who holds the opens of a connection. Every function of the engine changes the number of opens of
a connection by as much as it changes what its readers and transactions hold of them. -/

namespace SqlExecution

variable {σ α : Type}

namespace Session

/-- What is held of the opens of a connection goes from one number to the other, and the number of
its opens goes along. -/
def Follows (id : ConnectionId) (s t : Session σ) (before after : Nat) : Prop :=
  before ≤ s.openCount id → t.openCount id + before = s.openCount id + after

variable {id c : ConnectionId} {s t u : Session σ} {before between after : Nat}

theorem Follows.of_openCount (same : t.openCount = s.openCount) : Follows id s t before before :=
  fun _ => by rw [same]

theorem Follows.of_within {P : NativeCall → Prop} (within : s.Within P t) :
    Follows id s t before before := .of_openCount within.openCount

theorem Follows.trans (first : Follows id s t before between)
    (second : Follows id t u between after) : Follows id s u before after := by
  intro enough
  have step := first enough
  have rest := second (by omega)
  omega

theorem Follows.combine {n m : Nat} (first : Follows id s t before after)
    (second : Follows id t u n m) : Follows id s u (before + n) (after + m) := by
  intro enough
  have step := first (by omega)
  have rest := second (by omega)
  omega

theorem Follows.frame (h : Follows id s t before after) (others : Nat) :
    Follows id s t (others + before) (others + after) := by
  intro enough
  have step := h (by omega)
  omega

theorem Follows.of_added {n : Nat} (count : t.openCount id = s.openCount id + n) :
    Follows id s t 0 n := fun _ => by omega

theorem Follows.of_removed {n : Nat} (count : t.openCount id = s.openCount id - n) :
    Follows id s t n 0 := fun enough => by omega

theorem Follows.openCount_eq (follows : ∀ id, Follows id s t 0 0) : t.openCount = s.openCount := by
  funext id
  have step := follows id (Nat.zero_le _)
  omega

end Session

open Session

/-- What is held at the end: what the value holds, and nothing if there is no value. -/
def Outcome.held (after : α → Nat) : Outcome α → Nat
  | .ok a => after a
  | .error _ => 0

/-- The number of opens follows what is held, from a given number on. -/
def Attempt.Follows (id : ConnectionId) (before : Nat) (m : Attempt σ α) (after : α → Nat) : Prop :=
  ∀ s, Session.Follows id s (m.observe s).2 before (Outcome.held after (m.observe s).1)

namespace Attempt

variable {β : Type} {id : ConnectionId} {before n : Nat} {P : NativeCall → Prop}

theorem Follows.bind {m : Attempt σ α} {f : α → Attempt σ β} {between : α → Nat} {after : β → Nat}
    (first : Follows id before m between) (rest : ∀ a, Follows id (between a) (f a) after) :
    Follows id before (m >>= f) after := by
  intro s
  have step := first s
  rcases ends : m.observe s with ⟨failure | a, t⟩
  all_goals rw [ends] at step
  · rw [observe_bind_error ends]
    exact step
  · rw [observe_bind_ok ends]
    exact step.trans (rest a t)

theorem follows_of_only {m : Attempt σ α} (only : Only P m) : Follows id 0 m fun _ => 0 := by
  intro s
  have none : Outcome.held (fun _ => 0) (m.observe s).1 = 0 := by
    cases (m.observe s).1 <;> rfl
  rw [none]
  exact .of_within (only s)

theorem follows_lift {m : Engine σ α} {after : α → Nat}
    (follows : ∀ s, Session.Follows id s (m s).2 before (after (m s).1)) :
    Follows id before (lift m) after := follows

theorem follows_lift_of_only {m : Engine σ α} (only : Engine.Only P m) :
    Follows id n (lift m) fun _ => n := follows_lift fun s => .of_within (only s)

theorem follows_throw (failure : Failure) {after : α → Nat} :
    Follows id 0 (throw failure : Attempt σ α) after := fun _ => .of_openCount rfl

end Attempt

/-- One open of the connection, if it is the one in question. -/
def ConnectionId.share (id c : ConnectionId) : Nat := if id = c then 1 else 0

theorem ConnectionId.toNat_decide (id c : ConnectionId) : (decide (id = c)).toNat = id.share c := by
  by_cases same : id = c <;> simp [share, same]

namespace ConnectionId

variable [Driver σ]

theorem acquire_follows (mode : Mode) (id c : ConnectionId) :
    Attempt.Follows id 0 (c.acquire mode : Attempt σ Bool) fun _ => id.share c := by
  intro s
  refine .of_added ?_
  have count : ((c.acquire mode).observe s).2.openCount id =
      (((c.acquire mode).observe s).2.connections id).openCount := rfl
  rw [count]
  cases ends : ((c.acquire mode).observe s).1 with
  | ok opened =>
    rw [acquire_ok ends, openCount_taken]
    rfl
  | error failure =>
    rw [acquire_error ends]
    rfl

theorem release_follows (mode : Mode) (id c : ConnectionId) (s : Session σ) :
    Follows id s ((c.release mode).observe s).2 (id.share c) 0 := by
  refine .of_removed ?_
  have count : ((c.release mode).observe s).2.openCount id =
      (((c.release mode).observe s).2.connections id).openCount := rfl
  rw [count, (release_apply mode c s).1, openCount_given]
  rfl

theorem releaseOutcome_follows (mode : Mode) (id c : ConnectionId) (s : Session σ) :
    Follows id s (c.releaseOutcome mode s).2 (id.share c) 0 := release_follows mode id c s

end ConnectionId

namespace Statement

variable {id c : ConnectionId} {mode : Mode} {s t u : Session σ}

theorem settled_follows {created : Outcome (NativeCommand × Result Unit)} {held : Bool}
    (settled : Settled mode c created held s t) : Follows id s t 0 0 := by
  unfold Settled at settled
  split at settled
  · exact .of_within settled
  · obtain ⟨d, u, _, holds, released⟩ := settled
    have first : Follows id s u 0 (if held ∧ id = c then 1 else 0) :=
      .of_added (holds.openCount id)
    exact first.trans (.of_removed (released.openCount id))

theorem settled_openCount {created : Outcome (NativeCommand × Result Unit)} {held : Bool}
    (settled : Settled mode c created held s t) : t.openCount = s.openCount :=
  Follows.openCount_eq fun _ => settled_follows settled

end Statement

/-- What a reader holds of the opens of a connection. -/
def DataReader.holds (id : ConnectionId) (r : DataReader σ) : Bool :=
  r.holding?.any (id = ·.connection)

theorem DataReader.holds_of_none {r : DataReader σ} (none : r.holding? = none) (id : ConnectionId) :
    r.holds id = false := by rw [holds, none, Option.any_none]

namespace ReaderUse

variable [Driver σ]

theorem perform_follows (id : ConnectionId) (use : ReaderUse σ) (r : DataReader σ) (s : Session σ) :
    Follows id s (use.perform r s).2 (r.holds id).toNat ((use.perform r s).1.holds id).toNat := by
  unfold DataReader.holds
  cases releasing : use.releasing? with
  | none =>
    obtain ⟨within, same⟩ := perform_keeps releasing r s
    rw [same]
    exact .of_within within
  | some mode =>
    cases holds : r.holding? with
    | none =>
      obtain ⟨quiet, none⟩ := use.perform_of_none holds s
      rw [none]
      exact .of_openCount quiet.openCount
    | some h =>
      obtain ⟨released, none⟩ := perform_releases releasing holds s
      rw [none]
      refine .of_removed ?_
      rw [released.openCount]
      by_cases same : id = h.connection
      · simp [same]
      · simp [same]

end ReaderUse

namespace Transaction

def holds (id : ConnectionId) (t : Transaction σ) : Bool := !t.released && id = t.connection

/-- A wrapper that is disposed has given its open back. -/
def Sound (t : Transaction σ) : Prop := t.state = .disposed → t.released = true

variable {id : ConnectionId}

theorem openCount_modifyConnection {f : Connection σ → Connection σ}
    (same : ∀ c, (f c).openCount = c.openCount) (c : ConnectionId) (s : Session σ) :
    (Engine.modifyConnection c f s).2.openCount = s.openCount := by
  funext i
  change ((s.setConnection c (f (s.connections c))).connections i).openCount = _
  by_cases here : i = c
  · subst here
    rw [Session.setConnection_same, same]
    rfl
  · rw [Session.setConnection_of_ne s here]
    rfl

theorem holds_toNat {t : Transaction σ} (unreleased : t.released = false) (id : ConnectionId) :
    (t.holds id).toNat = id.share t.connection := by
  rw [holds, unreleased, Bool.not_false, Bool.true_and, ConnectionId.toNat_decide]

theorem holds_of_released {t : Transaction σ} (released : t.released = true) (id : ConnectionId) :
    t.holds id = false := by rw [holds, released, Bool.not_true, Bool.false_and]

theorem wrap_follows (c : ConnectionId) (native : NativeTransaction) (serial : TransactionId)
    (owned : Bool) (s : Session σ) :
    Session.Follows id s (wrap c native serial owned s).2 (id.share c)
      ((wrap c native serial owned s).1.holds id).toNat := by
  have ambient := openCount_modifyConnection
    (f := fun k => { k with ambient := some ⟨native, serial⟩ }) (fun _ => rfl) c s
  have new : ∀ (u : Session σ) (t : Transaction σ), u.openCount = s.openCount → t.released = false →
      t.connection = c → Session.Follows id s u (id.share c) (t.holds id).toNat := by
    intro u t same unreleased connection
    rw [holds_toNat unreleased, connection]
    exact .of_openCount same
  unfold wrap
  simp only [Engine.bind_apply]
  split
  · exact new _ _ ambient rfl rfl
  · exact new _ _ ambient rfl rfl

/-- The number of opens follows what the wrapper holds, which stays sound. -/
def Tracks (id : ConnectionId) (t : Transaction σ) (m : Engine σ (α × Transaction σ)) : Prop :=
  ∀ s, Session.Follows id s (m s).2 (t.holds id).toNat ((m s).1.2.holds id).toNat ∧ (m s).1.2.Sound

theorem Tracks.after {β : Type} {P : NativeCall → Prop} {t : Transaction σ} {m : Engine σ β}
    {f : β → Engine σ (α × Transaction σ)} (only : Engine.Only P m)
    (rest : ∀ b, Tracks id t (f b)) : Tracks id t (m >>= f) := by
  intro s
  obtain ⟨follows, sound⟩ := rest (m s).1 (m s).2
  exact ⟨(Session.Follows.of_within (only s)).trans follows, sound⟩

theorem wrap_sound (c : ConnectionId) (native : NativeTransaction) (serial : TransactionId)
    (owned : Bool) (s : Session σ) : (wrap c native serial owned s).1.Sound := by
  have active : (wrap c native serial owned s).1.state = .active := by
    unfold wrap
    simp only [Engine.bind_apply]
    split <;> rfl
  intro disposed
  rw [active] at disposed
  cases disposed

variable [Driver σ]

theorem clear_follows (id : ConnectionId) (mode : Mode) (t : Transaction σ) (s : Session σ) :
    Session.Follows id s (t.clear mode s).2 (t.holds id).toNat 0 ∧
      (t.clear mode s).1.2.released = true := by
  have ambient := openCount_modifyConnection (f := fun k =>
    if k.ambient.any (·.id = t.id) then { k with ambient := none } else k)
    (fun k => by split <;> rfl) t.connection s
  unfold clear
  rw [Engine.bind_apply]
  cases released : t.released with
  | true =>
    rw [holds_of_released released]
    exact ⟨.of_openCount ambient, released⟩
  | false =>
    rw [holds_toNat released]
    refine ⟨(Session.Follows.of_openCount ambient).trans ?_, rfl⟩
    exact ConnectionId.releaseOutcome_follows mode id t.connection _

theorem only_beginNative (mode : Mode) (c : ConnectionId) (isolation : IsolationLevel)
    (serial : TransactionId) :
    Attempt.Only (· = .begin c mode isolation)
      (beginNative mode c isolation serial : Attempt σ _) := by
  have begins : Allows (Within (σ := σ) (· = .begin c mode isolation)) (.begin c mode isolation) :=
    allows_within rfl
  exact fun _ => beginNative_obeys hears_within begins serial fun l _ => eachHook_within l

theorem releaseAfterFailure_follows (id : ConnectionId) (mode : Mode) (c : ConnectionId)
    (s : Session σ) : Session.Follows id s (releaseAfterFailure mode c s).2 (id.share c) 0 := by
  have released := ConnectionId.releaseOutcome_follows mode id c s
  exact released.trans (.of_within (Engine.obeys_warn (R := Within fun _ => False) _ _ _ _ _))

theorem start_follows (id : ConnectionId) (mode : Mode) (c : ConnectionId)
    (isolation : IsolationLevel) :
    Attempt.Follows id 0 (start mode c isolation : Attempt σ _) fun t => (t.holds id).toNat := by
  unfold start
  refine (Attempt.follows_of_only (P := fun _ => False) (obeys_ensureNone c)).bind fun _ => ?_
  refine (Attempt.follows_of_only (P := fun _ => False) (Attempt.obeys_checkpoint mode)).bind
    fun _ => ?_
  refine (ConnectionId.acquire_follows mode id c).bind fun _ => ?_
  refine (Attempt.follows_lift_of_only (P := fun _ => False) Engine.obeys_mint).bind
    fun serial => ?_
  refine (Attempt.follows_lift_of_only (only_beginNative mode c isolation ⟨serial⟩)).bind
    fun begun => ?_
  cases begun with
  | ok native => exact Attempt.follows_lift fun s => wrap_follows c native ⟨serial⟩ true s
  | error failure =>
    have returned : Attempt.Follows id (id.share c)
        (Attempt.lift (releaseAfterFailure mode c) : Attempt σ Unit) fun _ => 0 :=
      Attempt.follows_lift fun s => releaseAfterFailure_follows id mode c s
    exact returned.bind fun _ => Attempt.follows_throw failure

theorem adopt_follows (id : ConnectionId) (mode : Mode) (c : ConnectionId)
    (native : NativeTransaction) :
    Attempt.Follows id 0 (adopt mode c native : Attempt σ _) fun t => (t.holds id).toNat := by
  unfold adopt
  refine (Attempt.follows_of_only (P := fun _ => False) (obeys_ensureNone c)).bind fun _ => ?_
  refine (ConnectionId.acquire_follows mode id c).bind fun _ => ?_
  refine (Attempt.follows_lift_of_only (P := fun _ => False) Engine.obeys_mint).bind
    fun serial => ?_
  refine (Attempt.follows_lift_of_only (P := fun _ => False) (Engine.obeys_trace _ _ _ _)).bind
    fun _ => ?_
  exact Attempt.follows_lift fun s => wrap_follows c native ⟨serial⟩ false s

theorem sound_of_start {mode : Mode} {c : ConnectionId} {isolation : IsolationLevel}
    {s u : Session σ} {t : Transaction σ}
    (starts : (start mode c isolation).observe s = (.ok t, u)) : t.Sound := by
  obtain ⟨_, _, _, rest⟩ := Attempt.ok_of_bind_ok starts
  obtain ⟨_, _, _, rest⟩ := Attempt.ok_of_bind_ok rest
  obtain ⟨_, _, _, rest⟩ := Attempt.ok_of_bind_ok rest
  obtain ⟨serial, v, _, rest⟩ := Attempt.ok_of_bind_ok rest
  obtain ⟨begun, w, _, rest⟩ := Attempt.ok_of_bind_ok rest
  cases begun with
  | ok native =>
    cases rest
    exact wrap_sound c native ⟨serial⟩ true w
  | error failure => cases rest

theorem sound_of_adopt {mode : Mode} {c : ConnectionId} {native : NativeTransaction}
    {s u : Session σ} {t : Transaction σ}
    (adopts : (adopt mode c native).observe s = (.ok t, u)) : t.Sound := by
  obtain ⟨_, _, _, rest⟩ := Attempt.ok_of_bind_ok adopts
  obtain ⟨_, _, _, rest⟩ := Attempt.ok_of_bind_ok rest
  obtain ⟨serial, _, _, rest⟩ := Attempt.ok_of_bind_ok rest
  obtain ⟨_, w, _, rest⟩ := Attempt.ok_of_bind_ok rest
  cases rest
  exact wrap_sound c native ⟨serial⟩ false w

theorem complete_tracks (id : ConnectionId) (mode : Mode) (completion : Completion)
    {t : Transaction σ} (sound : t.Sound) : Tracks id t (t.complete mode completion) := by
  -- There are two ways out: the wrapper as it was, or cleared in its final state.
  have unchanged : ∀ o : Outcome Unit, Tracks id t (pure (o, t)) := fun o s =>
    ⟨.of_openCount rfl, sound⟩
  have cleared : Tracks id t (clear mode { t with state := completion.state }) := by
    intro s
    obtain ⟨follows, released⟩ := clear_follows id mode { t with state := completion.state } s
    refine ⟨?_, fun _ => released⟩
    rw [holds_of_released released]
    exact follows
  unfold complete
  split
  · exact unchanged _
  · refine Tracks.after (P := fun _ => False) Engine.obeys_get fun s => ?_
    split
    · exact unchanged _
    · refine Tracks.after (P := (· = completion.note t.native mode)) (Engine.only_call (by rfl) _)
        fun o => ?_
      rcases o with failure | _
      · cases failure with
        | error e =>
          refine Tracks.after (P := fun _ => False) (Engine.obeys_trace _ _ _ _) fun _ => ?_
          exact unchanged _
        | cancelled reason => exact unchanged _
        | panicked message => exact unchanged _
      · refine Tracks.after (P := fun _ => False) (Engine.obeys_trace _ _ _ _) fun _ => ?_
        exact cleared

theorem dispose_follows (id : ConnectionId) (mode : Mode) {t : Transaction σ} (sound : t.Sound)
    (s : Session σ) :
    Session.Follows id s (t.dispose mode s).2 (t.holds id).toNat 0 ∧
      (t.dispose mode s).1.2.released = true := by
  unfold dispose
  by_cases disposed : t.state = .disposed
  · rw [if_pos disposed, holds_of_released (sound disposed)]
    exact ⟨.of_openCount rfl, sound disposed⟩
  · rw [if_neg disposed]
    have aborted : Session.Follows id s (t.abort mode s).2 (t.holds id).toNat (t.holds id).toNat :=
      .of_within (obeys_abort (R := Within (· = .rollback t.native mode))
        (fun _ => allows_within rfl) s)
    have cleared := clear_follows id mode { t with state := .disposed } (t.abort mode s).2
    exact ⟨aborted.trans cleared.1, cleared.2⟩

theorem drop_follows (id : ConnectionId) {t : Transaction σ} (sound : t.Sound) (s : Session σ) :
    Session.Follows id s (t.drop s).2 (t.holds id).toNat 0 := by
  unfold drop
  by_cases disposed : t.state = .disposed
  · rw [if_pos disposed, holds_of_released (sound disposed)]
    exact .of_openCount rfl
  · rw [if_neg disposed, Engine.bind_apply]
    have released := (dispose_follows id .blocking sound s).1
    rcases (t.dispose .blocking s).1.1 with failure | _
    · exact released.trans (.of_within (Engine.obeys_trace (R := Within fun _ => False) _ _ _ _ _))
    · exact released

end Transaction

end SqlExecution
