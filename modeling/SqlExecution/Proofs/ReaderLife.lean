import SqlExecution.Proofs.Buffering
import SqlExecution.Proofs.Releases

/-! The life of a reader. Whatever is done with it between, it holds its cursor, command and open
until the first use that releases them, and that use releases each of them once. -/

namespace SqlExecution

variable {σ α β : Type}

open Session

/-- What an open reader holds. -/
structure Holding where
  command : NativeCommand
  /-- The driver's cursor; results in memory have none. -/
  cursor : Option Cursor
  connection : ConnectionId

namespace Holding

def Reads (held : Option Holding) (call : NativeCall) : Prop :=
  ∃ c, held.bind (·.cursor) = some c ∧ c.Reads call

/-- From one moment to the other the cursor is closed, then the command is disposed, and then the
open is given back. -/
def Released (mode : Mode) (h : Holding) (s t : Session σ) : Prop :=
  ∃ u, s.Issues (h.cursor.toList.map (.closeCursor · mode)) u ∧
    h.command.Released mode h.connection true u t

theorem Released.after {mode : Mode} {h : Holding} {s t u : Session σ} (quiet : s.Issues [] t)
    (released : h.Released mode t u) : h.Released mode s u := by
  obtain ⟨v, closed, rest⟩ := released
  exact ⟨v, quiet.trans closed, rest⟩

theorem Released.before {mode : Mode} {h : Holding} {s t u : Session σ}
    (released : h.Released mode s t) (quiet : t.Issues [] u) : h.Released mode s u := by
  obtain ⟨v, closed, rest⟩ := released
  exact ⟨v, closed, rest.before quiet⟩

theorem Released.openCount {mode : Mode} {h : Holding} {s t : Session σ}
    (released : h.Released mode s t) (i : ConnectionId) :
    t.openCount i = s.openCount i - if i = h.connection then 1 else 0 := by
  obtain ⟨u, closed, rest⟩ := released
  rw [rest.openCount, closed.openCount]
  simp

end Holding

def DataCursor.native? : DataCursor → Option Cursor
  | native c => some c
  | buffered _ => none

def ReaderBinding.holding (b : ReaderBinding σ) : Holding :=
  ⟨b.command, b.cursor.native?, b.info.connection⟩

namespace DataReader

def holding? (r : DataReader σ) : Option Holding := r.phase.binding?.map (·.holding)

def logger? (r : DataReader σ) : Option (Logger σ) := r.phase.binding?.bind (·.logger)

/-- The same binding, except for what is read of results in memory. -/
structure Stays (r r' : DataReader σ) : Prop where
  holding : r'.holding? = r.holding?
  logger : r'.logger? = r.logger?

theorem Stays.refl (r : DataReader σ) : r.Stays r := ⟨rfl, rfl⟩

theorem Stays.trans {r r' r'' : DataReader σ} (first : r.Stays r') (second : r'.Stays r'') :
    r.Stays r'' := ⟨second.holding.trans first.holding, second.logger.trans first.logger⟩

@[simp] theorem holding_ofBinding (b : ReaderBinding σ) : (ofBinding b).holding? = some b.holding :=
  rfl

theorem stays_counted (r : DataReader σ) (o : Outcome Bool) : r.Stays (r.counted o) := by
  unfold counted
  split <;> exact ⟨rfl, rfl⟩

@[simp] theorem holding_retired (r : DataReader σ) : r.retired.holding? = none := by
  unfold retired holding?
  rcases phase : r.phase with _ | b | _ <;> simp [ReaderPhase.binding?, phase]

@[simp] theorem logger_retired (r : DataReader σ) : r.retired.logger? = none := by
  unfold retired logger?
  rcases phase : r.phase with _ | b | _ <;> simp [ReaderPhase.binding?, phase]

theorem stays_withBuffer {r : DataReader σ} {b : BufferedReader}
    (reads : r.cursor? = some (.buffered b)) (b' : BufferedReader) : r.Stays (r.withBuffer b') := by
  unfold cursor? at reads
  unfold withBuffer
  rcases phase : r.phase with _ | binding | _
  · exact .refl r
  · have buffered : binding.cursor = .buffered b := by
      simpa [phase, ReaderPhase.binding?] using reads
    refine ⟨?_, ?_⟩
    · simp [holding?, phase, ReaderPhase.binding?, ReaderBinding.holding,
        DataCursor.native?, buffered]
    · simp [logger?, phase, ReaderPhase.binding?]
  · exact .refl r

theorem reads_of_native {r : DataReader σ} {c : Cursor} (reads : r.cursor? = some (.native c))
    {call : NativeCall} (h : c.Reads call) : Holding.Reads r.holding? call := by
  refine ⟨c, ?_, h⟩
  unfold cursor? at reads
  unfold holding?
  rcases binding : r.phase.binding? with _ | b
  all_goals simp_all [ReaderBinding.holding, DataCursor.native?]

variable {R : Session σ → Session σ → Prop} [ReportingLaw R] {first : DataReader σ}

/-- A computation that is lawful, and holds on to what a reader holds. -/
def Keeps (R : Session σ → Session σ → Prop) (first : DataReader σ)
    (m : Engine σ (α × DataReader σ)) : Prop := ∀ s, R s (m s).2 ∧ first.Stays (m s).1.2

theorem Keeps.pure {r : DataReader σ} (holds : first.Stays r) (a : α) :
    Keeps R first (pure (a, r) : Engine σ (α × DataReader σ)) := fun s => ⟨ReportingLaw.refl s, holds⟩

theorem Keeps.bind {m : Engine σ (α × DataReader σ)}
    {f : α × DataReader σ → Engine σ (β × DataReader σ)}
    (here : Keeps R first m) (rest : ∀ a r, first.Stays r → Keeps R first (f (a, r))) :
    Keeps R first (m >>= f) := by
  intro s
  obtain ⟨lawful, holds⟩ := here s
  obtain ⟨lawful', holds'⟩ := rest (m s).1.1 (m s).1.2 holds (m s).2
  exact ⟨ReportingLaw.trans lawful lawful', holds'⟩

theorem Keeps.of_obeys {m : Engine σ α} {f : α → Engine σ (β × DataReader σ)}
    (here : Engine.Obeys R m) (rest : ∀ a, Keeps R first (f a)) : Keeps R first (m >>= f) := by
  intro s
  obtain ⟨lawful, holds⟩ := rest (m s).1 (m s).2
  exact ⟨ReportingLaw.trans (here s) lawful, holds⟩

variable [Driver σ]

theorem obeys_fieldCount (r : DataReader σ) : Engine.Obeys R r.fieldCount := by
  unfold fieldCount
  rcases r.cursor? with _ | c | b
  · exact .pure _
  · exact c.obeys_fieldCount
  · exact .pure _

theorem obeys_recordsAffected (r : DataReader σ) : Engine.Obeys R r.recordsAffected := by
  unfold recordsAffected
  rcases r.cursor? with _ | c | b
  · exact .pure _
  · exact c.obeys_recordsAffected
  · exact .pure _

theorem obeys_remaining (r : DataReader σ) : Engine.Obeys R r.remaining := by
  unfold remaining
  rcases r.cursor? with _ | c | b
  · exact .pure _
  · exact c.obeys_remaining
  · exact .pure _

section Reading

variable (reads : ∀ call, Holding.Reads first.holding? call → Allows R call)
include reads

theorem obeys_getValue (ordinal : Nat) {r : DataReader σ} (holds : first.Stays r) :
    Engine.Obeys R (r.getValue ordinal) := by
  unfold getValue
  rcases native : r.cursor? with _ | c | b
  · exact .pure _
  · exact c.obeys_getValue
      (fun call h => reads call (holds.holding ▸ reads_of_native native h)) ordinal
  · exact .pure _

theorem obeys_isNull (ordinal : Nat) {r : DataReader σ} (holds : first.Stays r) :
    Engine.Obeys R (r.isNull ordinal) := (obeys_getValue reads ordinal holds).bind fun _ => .pure _

theorem obeys_columnName (ordinal : Nat) {r : DataReader σ} (holds : first.Stays r) :
    Engine.Obeys R (r.columnName ordinal) := by
  unfold columnName
  rcases native : r.cursor? with _ | c | b
  · exact .pure _
  · exact c.obeys_columnName (fun ordinal =>
      reads _ (holds.holding ▸ reads_of_native native (c.reads_columnName ordinal))) ordinal
  · exact .pure _

theorem obeys_cells (ordinals : List Nat) {r : DataReader σ} (holds : first.Stays r) :
    Engine.Obeys R (r.cells ordinals) := by
  induction ordinals with
  | nil => exact .pure _
  | cons ordinal rest ih =>
    unfold cells
    refine (obeys_getValue reads ordinal holds).bind fun found => ?_
    cases found with
    | ok v => exact ih.bind fun _ => .pure _
    | error e => exact .pure _

theorem keeps_read (mode : Mode) {r : DataReader σ} (holds : first.Stays r) :
    Keeps R first (r.read mode) := by
  unfold read
  rcases native : r.cursor? with _ | c | b
  · exact .pure holds _
  · have steps :=
      c.obeys_read (fun call h => reads call (holds.holding ▸ reads_of_native native h)) mode
    exact .of_obeys steps fun o => .pure (holds.trans (r.stays_counted o)) _
  · exact .pure ((holds.trans (stays_withBuffer native _)).trans (stays_counted _ _)) _

theorem keeps_nextResult (mode : Mode) {r : DataReader σ} (holds : first.Stays r) :
    Keeps R first (r.nextResult mode) := by
  unfold nextResult
  rcases native : r.cursor? with _ | c | b
  · exact .pure holds _
  · have moves :=
      c.obeys_nextResult (fun call h => reads call (holds.holding ▸ reads_of_native native h)) mode
    exact .of_obeys moves fun _ => .pure holds _
  · exact .pure (holds.trans (stays_withBuffer native _)) _

theorem keeps_drainRows (n : Nat) {r : DataReader σ} (holds : first.Stays r) :
    Keeps R first (r.drainRows n) := by
  -- Reading changes the reader but not what it holds, which is what the induction carries.
  induction n generalizing r with
  | zero => exact .pure holds _
  | succ n ih =>
    unfold drainRows
    refine (keeps_read reads .blocking holds).bind fun found r holds => ?_
    rcases found with failure | _ | _
    · exact .pure holds _
    · exact .pure holds _
    · refine .of_obeys r.obeys_fieldCount fun fields => ?_
      refine .of_obeys (obeys_cells reads _ holds) fun row => ?_
      cases row with
      | error e => exact .pure holds _
      | ok row => exact (ih holds).bind fun rows r holds => .pure holds _

theorem keeps_drainSets (rowBound n : Nat) {r : DataReader σ} (holds : first.Stays r) :
    Keeps R first (r.drainSets rowBound n) := by
  induction n generalizing r with
  | zero => exact .pure holds _
  | succ n ih =>
    unfold drainSets
    refine (keeps_drainRows reads rowBound holds).bind fun rows r holds => ?_
    cases rows with
    | error e => exact .pure holds _
    | ok rows =>
      refine (keeps_nextResult reads .blocking holds).bind fun found r holds => ?_
      rcases found with failure | _ | _
      · exact .pure holds _
      · exact .pure holds _
      · exact (ih holds).bind fun sets r holds => .pure holds _

theorem keeps_drain {r : DataReader σ} (holds : first.Stays r) : Keeps R first r.drain :=
  .of_obeys r.obeys_remaining fun bound => keeps_drainSets reads (bound + 1) (bound + 1) holds

end Reading

theorem obeys_announce {mode : Mode} {r : DataReader σ} {b : ReaderBinding σ}
    (hears : Hears R .readerDisposing) (hooks : ∀ l ∈ b.logger, l.EachHook (Lets R)) :
    Engine.Obeys R (r.announce mode b) := by
  unfold announce
  refine Logger.obeys_raised hooks fun logger hooks => ?_
  cases logger with
  | none => exact .pure _
  | some logger =>
    refine b.info.obeys_event.bind fun event => ?_
    refine r.obeys_recordsAffected.bind fun recordsAffected => ?_
    exact Logger.obeys_readerDisposing hears (hooks _ rfl) _ _ _ _

theorem only_announce {P : NativeCall → Prop} (mode : Mode) (r : DataReader σ)
    (b : ReaderBinding σ) : Engine.Only P (r.announce mode b) :=
  obeys_announce (hears_within _) fun l _ => eachHook_within l

theorem closeCursor_issues (mode : Mode) (cursor : DataCursor) (s : Session σ) :
    s.Issues (cursor.native?.toList.map (.closeCursor · mode)) (closeCursor mode cursor s).2 := by
  cases cursor with
  | native c => exact Engine.issues_call _ _ s
  | buffered b => exact .refl s

theorem releaseBinding_released (mode : Mode) (b : ReaderBinding σ) (s : Session σ) :
    b.holding.Released mode s (releaseBinding mode b s).2 := by
  have closed := closeCursor_issues mode b.cursor s
  have cleaned := b.command.cleanUp_released mode b.info.connection (closeCursor mode b.cursor s).2
  refine ⟨_, closed, cleaned.before ?_⟩
  unfold releaseBinding
  rw [Engine.bind_apply, Engine.bind_apply]
  rcases (closeCursor mode b.cursor s).1 with failure | _
  · exact Within.silent (Engine.obeys_warn _ _ _ _ _)
  · cases (b.command.cleanUp mode b.info.connection (closeCursor mode b.cursor s).2).1 with
    | error failure => exact .refl _
    | ok _ => exact .refl _

theorem dispose_of_holding (mode : Mode) {r : DataReader σ} {h : Holding}
    (holds : r.holding? = some h) (s : Session σ) :
    h.Released mode s (r.dispose mode s).2 ∧ (r.dispose mode s).1.2.holding? = none := by
  unfold holding? at holds
  unfold dispose
  rcases phase : r.phase with _ | b | _
  · simp [phase, ReaderPhase.binding?] at holds
  · have same : b.holding = h := by simpa [phase, ReaderPhase.binding?] using holds
    have told := (r.only_announce mode b s).silent
    have released := releaseBinding_released mode b (r.announce mode b s).2
    rw [same] at released
    exact ⟨released.after told, r.holding_retired⟩
  · simp [phase, ReaderPhase.binding?] at holds

theorem dispose_of_none (mode : Mode) {r : DataReader σ} (holds : r.holding? = none)
    (s : Session σ) : r.dispose mode s = ((.ok (), r), s) := by
  unfold holding? at holds
  unfold dispose
  rcases phase : r.phase with _ | b | _
  · rfl
  · simp [phase, ReaderPhase.binding?] at holds
  · rfl

theorem drop_issues (r : DataReader σ) (s : Session σ) :
    (r.dispose .blocking s).2.Issues [] (r.drop s).2 := by
  unfold drop
  rw [Engine.bind_apply]
  rcases (r.dispose .blocking s).1.1 with failure | _
  · exact Within.silent (Engine.obeys_trace _ _ _ _ _)
  · exact .refl _

theorem rebind_issues (mode : Mode) (b : ReaderBinding σ) (r : DataReader σ) (s : Session σ) :
    (r.dispose mode s).2.Issues [] (r.rebind mode b s).2 :=
  Within.silent (Engine.obeys_warn _ _ _ _ _)

end DataReader

inductive ReaderUse (σ : Type) where
  | read (mode : Mode)
  | nextResult (mode : Mode)
  | getValue (ordinal : Nat)
  | isNull (ordinal : Nat)
  | columnName (ordinal : Nat)
  | drain
  | dispose (mode : Mode)
  /-- The reader goes out of scope. -/
  | drop
  /-- The reader is bound to another execution. -/
  | supersede (mode : Mode) (b : ReaderBinding σ)

namespace ReaderUse

def releasing? : ReaderUse σ → Option Mode
  | dispose mode => some mode
  | drop => some .blocking
  | supersede mode _ => some mode
  | _ => none

variable [Driver σ]

def perform : ReaderUse σ → DataReader σ → Engine σ (DataReader σ)
  | read mode, r => return (← r.read mode).2
  | nextResult mode, r => return (← r.nextResult mode).2
  | getValue ordinal, r => do
    let _ ← r.getValue ordinal
    return r
  | isNull ordinal, r => do
    let _ ← r.isNull ordinal
    return r
  | columnName ordinal, r => do
    let _ ← r.columnName ordinal
    return r
  | drain, r => return (← r.drain).2
  | dispose mode, r => return (← r.dispose mode).2
  | drop, r => do
    r.drop
    return r.retired
  | supersede mode b, r => do
    let _ ← r.rebind mode b
    return r.retired

theorem perform_lawful {R : Session σ → Session σ → Prop} [Law R] {use : ReaderUse σ}
    (keeping : use.releasing? = none) {r : DataReader σ}
    (reads : ∀ call, Holding.Reads r.holding? call → Allows R call) (s : Session σ) :
    R s (use.perform r s).2 ∧ r.Stays (use.perform r s).1 := by
  have same : r.Stays r := .refl r
  cases use with
  | read mode => exact DataReader.keeps_read reads mode same s
  | nextResult mode => exact DataReader.keeps_nextResult reads mode same s
  | getValue ordinal => exact ⟨DataReader.obeys_getValue reads ordinal same s, same⟩
  | isNull ordinal => exact ⟨DataReader.obeys_isNull reads ordinal same s, same⟩
  | columnName ordinal => exact ⟨DataReader.obeys_columnName reads ordinal same s, same⟩
  | drain => exact DataReader.keeps_drain reads same s
  | dispose mode => simp [releasing?] at keeping
  | drop => simp [releasing?] at keeping
  | supersede mode b => simp [releasing?] at keeping

theorem perform_keeps {use : ReaderUse σ} (keeping : use.releasing? = none) (r : DataReader σ)
    (s : Session σ) :
    s.Within (Holding.Reads r.holding?) (use.perform r s).2 ∧
      (use.perform r s).1.holding? = r.holding? := by
  obtain ⟨within, same⟩ :=
    perform_lawful (R := Within (Holding.Reads r.holding?)) keeping (fun _ => allows_within) s
  exact ⟨within, same.holding⟩

theorem perform_releases {use : ReaderUse σ} {mode : Mode} (releasing : use.releasing? = some mode)
    {r : DataReader σ} {h : Holding} (holds : r.holding? = some h) (s : Session σ) :
    h.Released mode s (use.perform r s).2 ∧ (use.perform r s).1.holding? = none := by
  have disposed := r.dispose_of_holding mode holds s
  cases use with
  | dispose mode' =>
    cases releasing
    exact disposed
  | drop =>
    cases releasing
    exact ⟨disposed.1.before (r.drop_issues s), r.holding_retired⟩
  | supersede mode' b =>
    cases releasing
    exact ⟨disposed.1.before (r.rebind_issues mode b s), r.holding_retired⟩
  | _ => simp [releasing?] at releasing

theorem perform_of_none (use : ReaderUse σ) {r : DataReader σ} (holds : r.holding? = none)
    (s : Session σ) : s.Issues [] (use.perform r s).2 ∧ (use.perform r s).1.holding? = none := by
  cases releasing : use.releasing? with
  | none =>
    obtain ⟨within, same⟩ := perform_keeps releasing r s
    refine ⟨(within.mono fun call reads => ?_).silent, same.trans holds⟩
    obtain ⟨c, held, _⟩ := reads
    simp [holds] at held
  | some mode =>
    have spent := r.dispose_of_none mode holds s
    cases use with
    | dispose mode' =>
      cases releasing
      simp only [perform, Engine.bind_apply, Engine.pure_apply, spent]
      exact ⟨.refl s, holds⟩
    | drop =>
      cases releasing
      have dropped := r.drop_issues s
      rw [spent] at dropped
      exact ⟨dropped, r.holding_retired⟩
    | supersede mode' b =>
      cases releasing
      have rebound := r.rebind_issues mode b s
      rw [spent] at rebound
      exact ⟨rebound, r.holding_retired⟩
    | _ => simp [releasing?] at releasing

end ReaderUse

/-- A reader after some uses. Anything may happen between them, so each comes with the session
that it finds. -/
def DataReader.used [Driver σ] (r : DataReader σ) (past : List (ReaderUse σ × Session σ)) :
    DataReader σ :=
  past.foldl (fun r p => (p.1.perform r p.2).1) r

/-- Over the whole life of a reader, what it holds is read from until the first use that releases
it, which releases all of it; no later use calls the driver. -/
def DataReader.ReleasesOnce [Driver σ] (h : Holding) (r : DataReader σ) : Prop :=
  ∀ (past : List (ReaderUse σ × Session σ)) (use : ReaderUse σ) (s : Session σ),
    ((∀ p ∈ past, p.1.releasing? = none) →
      (use.releasing? = none → s.Within (Holding.Reads (some h)) (use.perform (r.used past) s).2) ∧
      (∀ mode, use.releasing? = some mode → h.Released mode s (use.perform (r.used past) s).2)) ∧
    ((∃ p ∈ past, p.1.releasing? ≠ none) → s.Issues [] (use.perform (r.used past) s).2)

namespace DataReader

variable [Driver σ] {past : List (ReaderUse σ × Session σ)}

theorem used_cons (r : DataReader σ) (p : ReaderUse σ × Session σ) :
    r.used (p :: past) = ((p.1.perform r p.2).1).used past := rfl

theorem holding_used_of_none {r : DataReader σ} (holds : r.holding? = none) :
    (r.used past).holding? = none := by
  induction past generalizing r with
  | nil => exact holds
  | cons p past ih =>
    rw [used_cons]
    exact ih (p.1.perform_of_none holds p.2).2

theorem holding_used_of_keeping (r : DataReader σ) (keeping : ∀ p ∈ past, p.1.releasing? = none) :
    (r.used past).holding? = r.holding? := by
  induction past generalizing r with
  | nil => rfl
  | cons p past ih =>
    have first := keeping p (List.mem_cons_self ..)
    rw [used_cons, ih _ fun q member => keeping q (List.mem_cons_of_mem _ member)]
    exact (ReaderUse.perform_keeps first r p.2).2

theorem holding_used_of_releasing {r : DataReader σ} {h : Holding} (holds : r.holding? = some h)
    (releasing : ∃ p ∈ past, p.1.releasing? ≠ none) : (r.used past).holding? = none := by
  induction past generalizing r with
  | nil =>
    obtain ⟨p, member, _⟩ := releasing
    cases member
  | cons p past ih =>
    rw [used_cons]
    cases first : p.1.releasing? with
    | some mode => exact holding_used_of_none (ReaderUse.perform_releases first holds p.2).2
    | none =>
      refine ih ((ReaderUse.perform_keeps first r p.2).2.trans holds) ?_
      obtain ⟨q, member, releases⟩ := releasing
      rcases List.mem_cons.1 member with rfl | later
      · exact absurd first releases
      · exact ⟨q, later, releases⟩

theorem releasesOnce_of_holding {r : DataReader σ} {h : Holding} (holds : r.holding? = some h) :
    r.ReleasesOnce h := by
  intro past use s
  -- Before the first releasing use the reader holds what it held at first, after it nothing.
  refine ⟨fun keeping => ?_, fun releasing => ?_⟩
  · have holding := (holding_used_of_keeping r keeping).trans holds
    refine ⟨fun keeps => ?_, fun mode releases => ?_⟩
    · have within := (ReaderUse.perform_keeps keeps (r.used past) s).1
      rwa [holding] at within
    · exact (ReaderUse.perform_releases releases holding s).1
  · exact (use.perform_of_none (holding_used_of_releasing holds releasing) s).1

end DataReader

end SqlExecution
