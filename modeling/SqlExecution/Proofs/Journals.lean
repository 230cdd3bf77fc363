import SqlExecution.Proofs.Laws.Holders

/-! What a journal shows of a run. A facet tells the entries that one looks for. Of a part of the
run either the very moments are known that it adds under a facet, or the facet sees nothing of it,
and that is a law. -/

namespace SqlExecution

variable {σ α : Type}

open Session

/-- What one looks for in a journal, which is never a trace record. -/
structure Facet where
  sees : Entry → Bool
  untraced (record : TraceRecord) : sees (.trace record) = false := by intros; rfl

namespace Facet

/-- Everything that reaches the driver or an interceptor. -/
def reached : Facet where
  sees
    | .native _ => true
    | .hook _ => true
    | _ => false

/-- One facet shows all that the other shows. -/
def Refines (f g : Facet) : Prop := ∀ e, g.sees e = true → f.sees e = true

/-- Of the hooks, the facet sees only these. -/
def HooksOnly (f : Facet) (p : Hook → Bool) : Prop :=
  ∀ d : Delivery, p d.hook = false → f.sees (.hook d) = false

end Facet

namespace Session

variable {f g : Facet} {s t u : Session σ} {ms ns : List (Moment σ)}

/-- Of all that was added from one moment to the other, exactly this is seen. -/
def Shows (f : Facet) (s : Session σ) (ms : List (Moment σ)) (t : Session σ) : Prop :=
  ∃ added, t.journal = s.journal ++ added ∧ added.filter (f.sees ·.entry) = ms

abbrev Hides (f : Facet) (s t : Session σ) : Prop := Shows f s [] t

theorem Shows.of_journal_eq (same : t.journal = s.journal) : Hides f s t :=
  ⟨[], by rw [same, List.append_nil], rfl⟩

theorem Shows.trans (first : Shows f s ms t) (second : Shows f t ns u) :
    Shows f s (ms ++ ns) u := by
  obtain ⟨added, journal, rfl⟩ := first
  obtain ⟨more, journal', rfl⟩ := second
  exact ⟨added ++ more, by rw [journal', journal, List.append_assoc], List.filter_append ..⟩

theorem Shows.after (hidden : Hides f s t) (h : Shows f t ms u) : Shows f s ms u := hidden.trans h

theorem Shows.before (h : Shows f s ms t) (hidden : Hides f t u) : Shows f s ms u := by
  simpa using h.trans hidden

theorem Shows.refine (finer : f.Refines g) (h : Shows f s ms t) :
    Shows g s (ms.filter (g.sees ·.entry)) t := by
  obtain ⟨added, journal, rfl⟩ := h
  refine ⟨added, journal, ?_⟩
  rw [List.filter_filter]
  refine List.filter_congr fun m _ => ?_
  have sees := finer m.entry
  cases seen : g.sees m.entry with
  | false => rfl
  | true => simp [sees seen]

theorem shows_noted {e : Entry} (seen : f.sees e = true) (s : Session σ) :
    Shows f s [⟨s.scene, e⟩] (s.noted e) := ⟨_, rfl, by simp [seen]⟩

theorem hides_noted {e : Entry} (unseen : f.sees e = false) (s : Session σ) :
    Hides f s (s.noted e) := ⟨_, rfl, by simp [unseen]⟩

instance : Law (Hides f : Session σ → Session σ → Prop) where
  trans := Shows.trans
  unseen journal _ _ _ := .of_journal_eq journal
  traced record := hides_noted (f.untraced record)

theorem hears_hides {hook : Hook}
    (unseen : ∀ d : Delivery, d.hook = hook → f.sees (.hook d) = false) :
    Hears (Hides (σ := σ) f) hook := fun d is => hides_noted (unseen d is)

theorem hears_of_hooksOnly {p : Hook → Bool} (only : f.HooksOnly p) {hook : Hook}
    (other : p hook = false) : Hears (Hides (σ := σ) f) hook :=
  hears_hides fun d is => only d (is ▸ other)

theorem eachHook_hides (l : Logger σ) : l.EachHook (Lets (Hides f)) :=
  l.eachHook_of_forall fun _ _ => .of_journal_eq rfl

theorem allows_hides [Driver σ] {call : NativeCall} (unseen : f.sees (.native call) = false) :
    Allows (Hides (σ := σ) f) call :=
  ⟨hides_noted unseen, fun _ => .of_journal_eq rfl⟩

/-- Nothing but trace records was added, and the scene is the same. -/
structure Unnoticed (s t : Session σ) : Prop where
  hidden (f : Facet) : Hides f s t
  scene : t.scene = s.scene

instance : Law (Unnoticed : Session σ → Session σ → Prop) where
  trans first second :=
    ⟨fun f => (first.hidden f).trans (second.hidden f), second.scene.trans first.scene⟩
  unseen journal scene _ _ := ⟨fun _ => .of_journal_eq journal, scene⟩
  traced record s := ⟨fun f => hides_noted (f.untraced record) s, rfl⟩

end Session

namespace NativeCall

/-- The calls that hooks are around. -/
def isHooked : NativeCall → Bool
  | createCommand _ => true
  | begin _ _ _ => true
  | execute _ _ _ => true
  | _ => false

theorem isHooked_of_reads {c : Cursor} {call : NativeCall} (reads : c.Reads call) :
    call.isHooked = false := by
  cases call <;> first | rfl | cases reads

end NativeCall

/-- A facet for which only hooked calls and their hooks count: not connections, not readers, and not
how commands are discarded. -/
structure Facet.Focused (f : Facet) : Prop where
  calls {call : NativeCall} (unhooked : call.isHooked = false) : f.sees (.native call) = false
  disposing (d : Delivery) (hook : d.hook = .readerDisposing) : f.sees (.hook d) = false

namespace Facet.Focused

theorem of_hooksOnly {f : Facet} {p : Hook → Bool}
    (calls : ∀ call : NativeCall, call.isHooked = false → f.sees (.native call) = false)
    (only : f.HooksOnly p) (disposing : p .readerDisposing = false) : f.Focused :=
  ⟨fun {call} => calls call, fun d hook => only d (hook ▸ disposing)⟩

variable [Driver σ] {f : Facet} (focused : f.Focused)
include focused

theorem discards : Discards (Hides (σ := σ) f) :=
  ⟨fun _ => allows_hides (focused.calls rfl), fun _ _ => allows_hides (focused.calls rfl)⟩

theorem hides_acquire (mode : Mode) (id : ConnectionId) :
    Attempt.Obeys (Hides (σ := σ) f) (id.acquire mode) :=
  ConnectionId.obeys_acquire (allows_hides (focused.calls rfl)) fun _ _ => .of_journal_eq rfl

theorem hides_releaseOutcome (mode : Mode) (id : ConnectionId) :
    Engine.Obeys (Hides (σ := σ) f) (id.releaseOutcome mode) :=
  ConnectionId.obeys_releaseOutcome (allows_hides (focused.calls rfl)) fun _ =>
    .of_journal_eq rfl

theorem dismisses : Dismisses (Hides (σ := σ) f) where
  toDiscards := focused.discards
  disposing := hears_hides focused.disposing
  closes _ _ := allows_hides (focused.calls rfl)
  gives := focused.hides_releaseOutcome

theorem hides_cleanUp (mode : Mode) (id : ConnectionId) (c : NativeCommand) :
    Engine.Obeys (Hides (σ := σ) f) (c.cleanUp mode id) :=
  NativeCommand.obeys_cleanUp focused.discards (focused.hides_releaseOutcome mode id) c

theorem hides_load (cursor : Cursor) (mode : Mode) (columns : List ReaderColumn) (detailed : Bool) :
    Attempt.Obeys (Hides (σ := σ) f) (cursor.load mode columns detailed) :=
  Cursor.obeys_load
    (fun _ reads => allows_hides (focused.calls (NativeCall.isHooked_of_reads reads)))
    (allows_hides (focused.calls rfl)) columns detailed

theorem hides_rebind (mode : Mode) (b : ReaderBinding σ) (r : DataReader σ) :
    Engine.Obeys (Hides f) (r.rebind mode b) :=
  DataReader.obeys_rebind focused.dismisses mode (fun l _ => eachHook_hides l) b

theorem hides_abandon (failed : Hears (Hides (σ := σ) f) .commandFailed) (mode : Mode)
    (logger : Option (Logger σ)) (info : ExecutionInfo) (c : NativeCommand) (e : Error)
    (opened : Bool) : Engine.Obeys (Hides f) (Statement.abandon mode logger info c e opened) :=
  Statement.obeys_abandon failed focused.discards (fun l _ => eachHook_hides l)
    (fun _ => focused.hides_releaseOutcome mode _) c e

end Facet.Focused

end SqlExecution
