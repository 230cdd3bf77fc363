import SqlExecution.Proofs.Laws.Cursors
import SqlExecution.Proofs.Laws.Hooks

/-! What a computation does to the driver and to the connections. `Session.Within P s t` says that
between `s` and `t` only calls of the kind `P` were noted and no connection changed. It is a law,
and raising an event keeps to it for every kind of call. -/

namespace SqlExecution

variable {σ α : Type} {P Q : NativeCall → Prop}

def Entry.call? : Entry → Option NativeCall
  | .native call => some call
  | _ => none

namespace Session

/-- The calls to the driver so far. -/
def calls (s : Session σ) : List NativeCall := s.entries.filterMap Entry.call?

def openCount (s : Session σ) (id : ConnectionId) : Nat := (s.connections id).openCount

/-- From one moment to the other exactly these calls were made, and no connection changed. -/
structure Issues (s : Session σ) (made : List NativeCall) (t : Session σ) : Prop where
  connections : t.connections = s.connections
  calls : t.calls = s.calls ++ made

def Within (P : NativeCall → Prop) (s t : Session σ) : Prop :=
  ∃ made, Issues s made t ∧ ∀ call ∈ made, P call

variable {s t u : Session σ} {made more : List NativeCall}

theorem Issues.refl (s : Session σ) : Issues s [] s := ⟨rfl, (List.append_nil _).symm⟩

theorem Issues.trans (first : Issues s made t) (second : Issues t more u) :
    Issues s (made ++ more) u :=
  ⟨second.connections.trans first.connections, by rw [second.calls, first.calls, List.append_assoc]⟩

theorem Issues.openCount (h : Issues s made t) : t.openCount = s.openCount := by
  funext id
  simp [Session.openCount, h.connections]

theorem Issues.within (h : Issues s made t) (kind : ∀ call ∈ made, P call) : Within P s t :=
  ⟨made, h, kind⟩

theorem Within.of_eq (connections : t.connections = s.connections) (calls : t.calls = s.calls) :
    Within P s t := ⟨[], ⟨connections, by rw [calls, List.append_nil]⟩, by simp⟩

theorem Within.refl (s : Session σ) : Within P s s := .of_eq rfl rfl

theorem Within.trans (first : Within P s t) (second : Within P t u) : Within P s u := by
  obtain ⟨made, issues, kind⟩ := first
  obtain ⟨more, issues', kind'⟩ := second
  exact (issues.trans issues').within (List.forall_mem_append.2 ⟨kind, kind'⟩)

theorem Within.mono (weaker : ∀ call, P call → Q call) (h : Within P s t) : Within Q s t := by
  obtain ⟨made, issues, kind⟩ := h
  exact ⟨made, issues, fun call member => weaker call (kind call member)⟩

theorem Within.connections (h : Within P s t) : t.connections = s.connections := by
  obtain ⟨made, issues, _⟩ := h
  exact issues.connections

theorem Within.openCount (h : Within P s t) : t.openCount = s.openCount := by
  obtain ⟨made, issues, _⟩ := h
  exact issues.openCount

theorem Within.silent (h : Within (fun _ => False) s t) : Issues s [] t := by
  obtain ⟨made, issues, none⟩ := h
  rwa [List.eq_nil_iff_forall_not_mem.2 none] at issues

end Session

namespace Session

instance : Law (Within P : Session σ → Session σ → Prop) where
  trans := Within.trans
  unseen journal _ connections _ := .of_eq connections (by simp [calls, entries, journal])
  traced record s := .of_eq rfl (by simp [calls, entries, noted, Entry.call?])

theorem notes_within {e : Entry} (silent : e.call? = none) :
    Notes (Within P : Session σ → Session σ → Prop) e := fun s =>
  .of_eq rfl (by simp [calls, entries, noted, silent])

theorem hears_within (hook : Hook) : Hears (Within P : Session σ → Session σ → Prop) hook :=
  fun _ _ => notes_within rfl

theorem lets_within (f : Scene σ → Scene σ) : Lets (Within P) f := fun _ => .of_eq rfl rfl

theorem eachHook_within (l : Logger σ) : l.EachHook (Lets (Within P)) :=
  l.eachHook_of_forall lets_within

theorem issues_noted (call : NativeCall) (s : Session σ) :
    s.Issues [call] (s.noted (.native call)) :=
  ⟨rfl, by simp [calls, entries, noted, Entry.call?]⟩

theorem allows_within [Driver σ] {call : NativeCall} (kind : P call) :
    Allows (Within P : Session σ → Session σ → Prop) call :=
  ⟨fun s => (issues_noted call s).within (by simpa using kind), lets_within _⟩

end Session

open Session

/-- A computation that only makes calls of a kind and leaves the connections alone. -/
abbrev Engine.Only (P : NativeCall → Prop) (m : Engine σ α) : Prop := Engine.Obeys (Within P) m

abbrev Attempt.Only (P : NativeCall → Prop) (m : Attempt σ α) : Prop := Attempt.Obeys (Within P) m

namespace Engine

theorem issues_call (note : NativeCall) (a : Act σ α) (s : Session σ) :
    s.Issues [note] (call note a s).2 := by
  have acted := lets_within (P := fun _ => False) (fun scene => (a scene).2)
    (s.noted (.native note))
  exact (issues_noted note s).trans acted.silent

theorem only_call {note : NativeCall} (kind : P note) (a : Act σ α) : Only P (call note a) :=
  fun s => (issues_call note a s).within (by simpa using kind)

theorem trace_apply (level : TraceLevel) (target message : String)
    (fields : List (String × TraceValue)) (s : Session σ) :
    ∃ t, trace level target message fields s = ((), t) ∧ s.Issues [] t ∧ t.scene = s.scene := by
  have scene : (trace level target message fields s).2.scene = s.scene := by
    unfold trace
    simp only [bind_apply]
    split <;> rfl
  exact ⟨_, rfl, (obeys_trace (R := Within fun _ => False) level target message fields s).silent,
    scene⟩

end Engine

namespace Logger

theorem only_commandFailed (l : Logger σ) (mode : Mode) (c : NativeCommand) (event : CommandEvent)
    (e : Error) : Engine.Only P (l.commandFailed mode c event e) :=
  obeys_commandFailed (hears_within _) (eachHook_within l) mode c event e

end Logger

end SqlExecution
