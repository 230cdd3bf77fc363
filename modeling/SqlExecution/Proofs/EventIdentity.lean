import SqlExecution.Proofs.Course
import SqlExecution.Proofs.Tandem.Readers

/-! The events of an execution carry its identifier. What an execution notes of any execution, and
what the disposal of its reader notes, is of its own events, and these are the same event each time
but for what they are about; its identifier is minted if and only if there is such an event. -/

namespace SqlExecution

variable {σ α β : Type}

open Session Trace

namespace Session

/-- What was noted from one moment to the other. -/
def added (s t : Session σ) : List Entry := t.entries.drop s.entries.length

/-- Nothing that was noted is forgotten, and no ticket is handed out again. -/
structure Onward (s t : Session σ) : Prop where
  journal : ∃ more, t.journal = s.journal ++ more
  nextTicket : s.nextTicket ≤ t.nextTicket

structure Steady (s t : Session σ) : Prop extends s.Onward t where
  traceLimit : t.traceLimit = s.traceLimit

/-- Besides, the identifier behind the ticket is minted. -/
structure Begun (ticket : Ticket) (s t : Session σ) : Prop extends s.Steady t where
  minted : (t.commandIds ticket).isSome

/-- Only these events were told of, and no identifier was minted. -/
structure Speaks (events : CommandEvent → Prop) (s t : Session σ) : Prop extends s.Onward t where
  commandIds : t.commandIds = s.commandIds
  nextCommand : t.nextCommand = s.nextCommand
  tells : ∀ e ∈ s.added t, e.Plain ∨ ∃ event, events event ∧ e.Tells event

abbrev Silent (s t : Session σ) : Prop := s.Speaks (fun _ => False) t

/-- An event of some execution was noted. -/
def Heard (s t : Session σ) : Prop := ∃ e ∈ s.added t, ¬ e.Plain

/-- An event of some execution was noted, and the identifier behind the ticket is minted. -/
structure Named (ticket : Ticket) (s t : Session σ) : Prop extends s.Onward t where
  minted : (t.commandIds ticket).isSome
  heard : s.Heard t

variable {s t u : Session σ} {events : CommandEvent → Prop}

theorem entries_of_journal {more : List (Moment σ)} (journal : t.journal = s.journal ++ more) :
    t.entries = s.entries ++ more.map (·.entry) := by
  rw [entries, entries, journal, List.map_append]

theorem added_of_journal {more : List (Moment σ)} (journal : t.journal = s.journal ++ more) :
    s.added t = more.map (·.entry) := by
  rw [added, entries_of_journal journal, List.drop_left]

@[simp] theorem added_self (s : Session σ) : s.added s = [] := by simp [added]

theorem Onward.refl (s : Session σ) : s.Onward s := ⟨⟨[], by simp⟩, Nat.le_refl _⟩

theorem Onward.trans (first : s.Onward t) (second : t.Onward u) : s.Onward u := by
  obtain ⟨⟨more, journal⟩, tickets⟩ := first
  obtain ⟨⟨more', journal'⟩, tickets'⟩ := second
  exact ⟨⟨more ++ more', by rw [journal', journal, List.append_assoc]⟩,
    Nat.le_trans tickets tickets'⟩

theorem Onward.added_trans (first : s.Onward t) (second : t.Onward u) :
    s.added u = s.added t ++ t.added u := by
  obtain ⟨⟨more, journal⟩, _⟩ := first
  obtain ⟨⟨more', journal'⟩, _⟩ := second
  have whole : u.journal = s.journal ++ (more ++ more') := by
    rw [journal', journal, List.append_assoc]
  rw [added_of_journal whole, added_of_journal journal, added_of_journal journal', List.map_append]

theorem onward_noted (e : Entry) (s : Session σ) : s.Onward (s.noted e) := ⟨⟨_, rfl⟩, Nat.le_refl _⟩

theorem added_noted (e : Entry) (s : Session σ) : s.added (s.noted e) = [e] := by
  have journal : (s.noted e).journal = s.journal ++ [⟨s.scene, e⟩] := rfl
  rw [added_of_journal journal]
  rfl

theorem onward_of_journal_eq (same : t.journal = s.journal) (tickets : s.nextTicket ≤ t.nextTicket) :
    s.Onward t := ⟨⟨[], by rw [same, List.append_nil]⟩, tickets⟩

theorem added_of_journal_eq (same : t.journal = s.journal) : s.added t = [] := by
  have journal : t.journal = s.journal ++ [] := by rw [same, List.append_nil]
  rw [added_of_journal journal]
  rfl

theorem Speaks.refl (s : Session σ) : s.Speaks events s :=
  ⟨.refl s, rfl, rfl, fun e member => by simp at member⟩

theorem Speaks.trans (first : s.Speaks events t) (second : t.Speaks events u) :
    s.Speaks events u where
  toOnward := first.toOnward.trans second.toOnward
  commandIds := second.commandIds.trans first.commandIds
  nextCommand := second.nextCommand.trans first.nextCommand
  tells e member := by
    rw [first.toOnward.added_trans second.toOnward] at member
    exact (List.mem_append.1 member).elim (first.tells e) (second.tells e)

theorem speaks_of_journal_eq (same : t.journal = s.journal) (tickets : s.nextTicket ≤ t.nextTicket)
    (ids : t.commandIds = s.commandIds) (next : t.nextCommand = s.nextCommand) :
    s.Speaks events t :=
  ⟨onward_of_journal_eq same tickets, ids, next, fun e member => by
    rw [added_of_journal_eq same] at member
    cases member⟩

theorem speaks_noted {e : Entry} (told : e.Plain ∨ ∃ event, events event ∧ e.Tells event)
    (s : Session σ) : s.Speaks events (s.noted e) :=
  ⟨onward_noted e s, rfl, rfl, fun e' member => by
    rw [added_noted] at member
    cases List.mem_singleton.1 member
    exact told⟩

theorem Silent.plain (silent : s.Silent t) {e : Entry} (member : e ∈ s.added t) : e.Plain := by
  obtain plain | ⟨_, no, _⟩ := silent.tells e member
  · exact plain
  · exact no.elim

theorem Silent.unheard (silent : s.Silent t) : ¬ s.Heard t := fun ⟨_, member, spoken⟩ =>
  spoken (silent.plain member)

theorem heard_noted {e : Entry} (spoken : ¬ e.Plain) (onward : s.Onward t) :
    s.Heard (t.noted e) := by
  refine ⟨e, ?_, spoken⟩
  rw [onward.added_trans (onward_noted e t), added_noted]
  exact List.mem_append_right _ (List.mem_singleton_self e)

theorem Heard.onward (heard : s.Heard t) (before : s.Onward t) (later : t.Onward u) :
    s.Heard u := by
  obtain ⟨e, member, spoken⟩ := heard
  exact ⟨e, by rw [before.added_trans later]; exact List.mem_append_left _ member, spoken⟩

/-- What was told since is this event, whether or not the identifier was there before. -/
def ToldOf (info : ExecutionInfo) (s t : Session σ) : Prop :=
  s.Speaks (· = info.eventAs (s.idFor info.ticket)) t ∨
    (s.identified info.ticket).Speaks (· = info.eventAs (s.idFor info.ticket)) t

variable {ticket : Ticket}

theorem Named.onward (named : s.Named ticket t) (later : t.Onward u)
    (ids : (t.commandIds ticket).isSome → (u.commandIds ticket).isSome) : s.Named ticket u :=
  ⟨named.toOnward.trans later, ids named.minted, named.heard.onward named.toOnward later⟩

theorem onward_identified (ticket : Ticket) (s : Session σ) : s.Onward (s.identified ticket) := by
  rw [identified_eq]
  exact onward_of_journal_eq rfl (Nat.le_refl _)

theorem Steady.refl (s : Session σ) : s.Steady s := ⟨Onward.refl s, rfl⟩

theorem Steady.trans (first : s.Steady t) (second : t.Steady u) : s.Steady u :=
  ⟨first.toOnward.trans second.toOnward, second.traceLimit.trans first.traceLimit⟩

theorem steady_noted (e : Entry) (s : Session σ) : s.Steady (s.noted e) := ⟨onward_noted e s, rfl⟩

theorem steady_of_journal_eq (same : t.journal = s.journal) (tickets : s.nextTicket ≤ t.nextTicket)
    (limit : t.traceLimit = s.traceLimit) : s.Steady t :=
  ⟨onward_of_journal_eq same tickets, limit⟩

theorem steady_identified (ticket : Ticket) (s : Session σ) : s.Steady (s.identified ticket) := by
  rw [identified_eq]
  exact steady_of_journal_eq rfl (Nat.le_refl _) rfl

theorem isSome_identified (s : Session σ) {i : Ticket} (ticket : Ticket)
    (minted : (s.commandIds i).isSome) : ((s.identified ticket).commandIds i).isSome := by
  rw [commandIds_identified]
  dsimp only
  split
  · rfl
  · exact minted

theorem ToldOf.trans {info : ExecutionInfo} (told : s.ToldOf info t)
    (speaks : t.Speaks (· = info.eventAs (s.idFor info.ticket)) u) : s.ToldOf info u :=
  told.imp (·.trans speaks) (·.trans speaks)

theorem ToldOf.raises {info : ExecutionInfo} (told : s.ToldOf info t) :
    t.idFor info.ticket = s.idFor info.ticket ∧ s.ToldOf info (t.identified info.ticket) := by
  rcases told with speaks | speaks
  · have same : t.idFor info.ticket = s.idFor info.ticket := by
      simp [idFor, speaks.commandIds, speaks.nextCommand]
    refine ⟨same, .inr ⟨?_, ?_, ?_, fun e member => ?_⟩⟩
    · rw [identified_eq _ s, identified_eq _ t]
      exact ⟨speaks.journal, speaks.nextTicket⟩
    · simp [speaks.commandIds, same]
    · simp [speaks.commandIds, speaks.nextCommand]
    · rw [identified_eq _ s, identified_eq _ t] at member
      exact speaks.tells e member
  · have minted : t.commandIds info.ticket = some (s.idFor info.ticket) := by
      rw [speaks.commandIds, commandIds_identified]
      exact if_pos rfl
    exact ⟨idFor_of_some minted, by rw [identified_of_some minted]; exact .inr speaks⟩

end Session

/-- The events of an execution from one moment to another. Where some were raised its identifier is
minted, and they are all the event that carries it; where none was, nothing is told and minted. -/
inductive ExecutionInfo.Accounts (info : ExecutionInfo) (raised : Prop) (s t : Session σ) : Prop
  | silent (unraised : ¬ raised) (silent : s.Silent t)
  | spoken (raised : raised)
      (speaks : (s.identified info.ticket).Speaks (· = info.eventAs (s.idFor info.ticket)) t)

/-- What becomes of the events of an execution, if there is one. -/
def Session.Accounts (s : Session σ) (info : Option ExecutionInfo) (raised : Prop)
    (t : Session σ) : Prop :=
  match info with
  | none => s.Silent t
  | some info => info.Accounts raised s t

/-- The session in which an execution that was begun came to its end. -/
structure Session.Executes (s : Session σ) (info : Option ExecutionInfo) (t : Session σ) : Prop where
  accounts : s.Accounts info (s.Heard t) t
  ticket : ∀ i ∈ info, i.ticket = s.nextTicket ∧ s.nextTicket < t.nextTicket

theorem Session.accounts_of_told {info : ExecutionInfo} {s t : Session σ} (told : s.ToldOf info t)
    (voiced : s.Silent t ∨ s.Named info.ticket t) : s.Accounts (some info) (s.Heard t) t := by
  rcases voiced with silent | named
  · exact .silent silent.unheard silent
  · refine .spoken named.heard ?_
    rcases told with speaks | speaks
    · have minted := named.minted
      rw [speaks.commandIds] at minted
      obtain ⟨id, minted⟩ := Option.isSome_iff_exists.1 minted
      rwa [identified_of_some minted]
    · exact speaks

namespace Tandem

theorem speaks_watches (events : CommandEvent → Prop) (s : Session σ) :
    (alone (s.Speaks events) (fun _ => False) events).Watches where
  cancelled same := by rw [same]
  notes here _ allowed := here.trans (speaks_noted allowed _)
  moves _ here := here.trans (speaks_of_journal_eq rfl (Nat.le_refl _) rfl rfl)
  connects _ here := here.trans (speaks_of_journal_eq rfl (Nat.le_refl _) rfl rfl)
  tickets here := here.trans (speaks_of_journal_eq rfl (Nat.le_succ _) rfl rfl)
  serials here := here.trans (speaks_of_journal_eq rfl (Nat.le_refl _) rfl rfl)
  raises no := no.elim

theorem told_watches (info : ExecutionInfo) (s : Session σ) :
    (alone (s.ToldOf info) (· = info) (· = info.eventAs (s.idFor info.ticket))).Watches where
  cancelled same := by rw [same]
  notes here _ allowed := here.trans (speaks_noted allowed _)
  moves _ here := here.trans (speaks_of_journal_eq rfl (Nat.le_refl _) rfl rfl)
  connects _ here := here.trans (speaks_of_journal_eq rfl (Nat.le_refl _) rfl rfl)
  tickets here := here.trans (speaks_of_journal_eq rfl (Nat.le_succ _) rfl rfl)
  serials here := here.trans (speaks_of_journal_eq rfl (Nat.le_refl _) rfl rfl)
  raises same here := by
    cases same
    exact ⟨congrArg info.eventAs here.raises.1, here.raises.2⟩

/-- An event was heard before. -/
def loud (ticket : Ticket) (s : Session σ) : Tandem σ :=
  alone (s.Named ticket) (fun _ => True) (fun _ => True)

theorem loud_watches (ticket : Ticket) (s : Session σ) : (loud ticket s).Watches where
  cancelled same := by rw [same]
  notes here _ _ := here.onward (onward_noted _ _) id
  moves _ here := here.onward (onward_of_journal_eq rfl (Nat.le_refl _)) id
  connects _ here := here.onward (onward_of_journal_eq rfl (Nat.le_refl _)) id
  tickets here := here.onward (onward_of_journal_eq rfl (Nat.le_succ _)) id
  serials here := here.onward (onward_of_journal_eq rfl (Nat.le_refl _)) id
  raises {info u} _ here :=
    ⟨trivial, here.onward (onward_identified _ u) (isSome_identified u info.ticket)⟩

theorem steady_watches (s : Session σ) :
    (alone s.Steady (fun _ => True) (fun _ => True)).Watches where
  cancelled same := by rw [same]
  notes here _ _ := here.trans (steady_noted _ _)
  moves _ here := here.trans (steady_of_journal_eq rfl (Nat.le_refl _) rfl)
  connects _ here := here.trans (steady_of_journal_eq rfl (Nat.le_refl _) rfl)
  tickets here := here.trans (steady_of_journal_eq rfl (Nat.le_succ _) rfl)
  serials here := here.trans (steady_of_journal_eq rfl (Nat.le_refl _) rfl)
  raises _ here := ⟨trivial, here.trans (steady_identified _ _)⟩

theorem begun_watches (ticket : Ticket) (s : Session σ) :
    (alone (s.Begun ticket) (fun _ => True) (fun _ => True)).Watches where
  cancelled same := by rw [same]
  notes here _ _ := ⟨here.toSteady.trans (steady_noted _ _), here.minted⟩
  moves x here := ⟨(steady_watches s).moves x here.toSteady, here.minted⟩
  connects x here := ⟨(steady_watches s).connects x here.toSteady, here.minted⟩
  tickets here := ⟨(steady_watches s).tickets here.toSteady, here.minted⟩
  serials here := ⟨(steady_watches s).serials here.toSteady, here.minted⟩
  raises {info u} _ here := ⟨trivial, here.toSteady.trans (steady_identified _ u),
    isSome_identified u info.ticket here.minted⟩

end Tandem

/-- The computation tells of no execution. -/
def Engine.Mute (m : Engine σ α) : Prop :=
  ∀ t : Tandem σ, t.Watches → t.scenes = Eq → t.commands = Eq → t.Runs (fun _ _ => True) m m

theorem Engine.Mute.of_runs {m : Engine σ α} {V : Tandem σ → α → α → Prop}
    (runs : ∀ t : Tandem σ, t.Watches → t.scenes = Eq → t.commands = Eq → t.Runs (V t) m m) :
    m.Mute :=
  fun t watches scenes commands => (runs t watches scenes commands).mono fun _ _ _ => trivial

theorem Engine.Mute.of_tries {m : Attempt σ α} {V : Tandem σ → α → α → Prop}
    (tries : ∀ t : Tandem σ, t.Watches → t.scenes = Eq → t.commands = Eq → t.Tries (V t) m m) :
    m.observe.Mute :=
  .of_runs tries

theorem Engine.Mute.speaks {m : Engine σ α} (mute : m.Mute) {events : CommandEvent → Prop}
    {s t : Session σ} (before : s.Speaks events t) : s.Speaks events (m t).2 :=
  ((mute _ (Tandem.speaks_watches events s) rfl rfl).alone before).2

theorem Engine.Mute.steady {m : Engine σ α} (mute : m.Mute) {s t : Session σ}
    (before : s.Steady t) : s.Steady (m t).2 :=
  ((mute _ (Tandem.steady_watches s) rfl rfl).alone before).2

theorem Engine.Mute.named {m : Engine σ α} (mute : m.Mute) {ticket : Ticket} {s t : Session σ}
    (before : s.Named ticket t) : s.Named ticket (m t).2 :=
  ((mute _ (Tandem.loud_watches ticket s) rfl rfl).alone before).2

end SqlExecution
