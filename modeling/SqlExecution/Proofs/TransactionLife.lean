import SqlExecution.Proofs.Completions

/-! The life of a transaction wrapper. Whatever is done with it, the driver completes its native
transaction at most once, and its open is given back once, by the first use that completes, disposes
or drops it. -/

namespace SqlExecution

variable {σ : Type}

open Session

def NativeCall.isCompletion : NativeCall → Bool
  | commit _ _ => true
  | rollback _ _ => true
  | _ => false

theorem Completion.isCompletion_note (completion : Completion) (native : NativeTransaction)
    (mode : Mode) : (completion.note native mode).isCompletion = true := by cases completion <;> rfl

theorem Completion.state_ne_active (completion : Completion) : completion.state ≠ .active := by
  cases completion <;> exact nofun

theorem Completion.state_injective {completion other : Completion}
    (same : completion.state = other.state) : completion = other := by
  cases completion <;> cases other <;> first | rfl | cases same

theorem Completion.note_injective {completion other : Completion} {native : NativeTransaction}
    {mode mode' : Mode} (same : completion.note native mode = other.note native mode') :
    completion = other ∧ mode = mode' := by
  cases completion <;> cases other <;> cases same <;> exact ⟨rfl, rfl⟩

/-- The calls that complete native transactions. -/
def Facet.completions : Facet where
  sees
    | .native call => call.isCompletion
    | _ => false

/-- The driver is asked to complete a native transaction, and it does. -/
def Moment.Completes [Driver σ] (completion : Completion) (native : NativeTransaction)
    (m : Moment σ) : Prop :=
  ∃ mode, m.entry = .native (completion.note native mode) ∧
    ((completion.native native).perform mode m.scene).1 = .ok ()

namespace Session

/-- From one moment to the other the driver is asked to complete the transaction, and it does. -/
def Completes [Driver σ] (completion : Completion) (native : NativeTransaction) (s u : Session σ) :
    Prop :=
  ∃ ms, s.Shows .completions ms u ∧ ∃ m ∈ ms, m.Completes completion native

/-- No open is given back and no connection closed from one moment to the other. -/
def Retains (s u : Session σ) : Prop :=
  u.openCount = s.openCount ∧ ∃ made, u.calls = s.calls ++ made ∧
    ∀ call ∈ made, call.isCompletion = true

theorem Retains.of_issues {s u : Session σ} {made : List NativeCall} (issues : s.Issues made u)
    (kind : ∀ call ∈ made, call.isCompletion = true) : s.Retains u :=
  ⟨issues.openCount, made, issues.calls, kind⟩

theorem shows_completion (completion : Completion) {native : NativeTransaction} {mode : Mode}
    {s u : Session σ} (adds : s.Adds [⟨s.scene, .native (completion.note native mode)⟩] u) :
    s.Shows .completions [⟨s.scene, .native (completion.note native mode)⟩] u := by
  have sees : Facet.completions.sees (.native (completion.note native mode)) = true :=
    completion.isCompletion_note native mode
  simpa only [List.filter_cons, sees, if_true, List.filter_nil] using adds.shows .completions

theorem completes_of_call [Driver σ] {completion : Completion} {native : NativeTransaction}
    {mode : Mode} {s v u : Session σ}
    (succeeds : ((completion.native native).perform mode s.scene).1 = .ok ())
    (adds : s.Adds [⟨s.scene, .native (completion.note native mode)⟩] v)
    (hides : v.Hides .completions u) : s.Completes completion native u :=
  ⟨_, (shows_completion completion adds).before hides, _, List.mem_singleton_self _, mode, rfl,
    succeeds⟩

end Session

/-- What is done with a wrapper. -/
inductive TransactionUse where
  | complete (completion : Completion) (mode : Mode)
  | dispose (mode : Mode)
  /-- The wrapper goes out of scope. -/
  | drop

namespace TransactionUse

def mode : TransactionUse → Mode
  | complete _ mode => mode
  | dispose mode => mode
  | drop => .blocking

def isEnding : TransactionUse → Bool
  | complete _ _ => false
  | dispose _ => true
  | drop => true

end TransactionUse

namespace Transaction

def retired (t : Transaction σ) : Transaction σ := { t with state := .disposed, released := true }

/-- The wrapper holds its open exactly as long as it is active. -/
def Whole (t : Transaction σ) : Prop := t.released = true ↔ t.state ≠ .active

theorem Whole.held {t : Transaction σ} (whole : t.Whole) :
    (!t.released) = decide (t.state = .active) := by
  unfold Whole at whole
  by_cases active : t.state = .active <;> simp_all

/-- The same wrapper at another time. -/
structure Kin (t t' : Transaction σ) : Prop where
  connection : t'.connection = t.connection
  native : t'.native = t.native
  id : t'.id = t.id
  owned : t'.owned = t.owned

theorem Kin.refl (t : Transaction σ) : t.Kin t := ⟨rfl, rfl, rfl, rfl⟩

theorem Kin.trans {t t' t'' : Transaction σ} (first : t.Kin t') (second : t'.Kin t'') : t.Kin t'' :=
  ⟨second.connection.trans first.connection, second.native.trans first.native,
    second.id.trans first.id, second.owned.trans first.owned⟩

/-- The rollback that is this wrapper's to ask for when it is disposed. -/
def abortion (t : Transaction σ) (mode : Mode) (s : Session σ) : List (Moment σ) :=
  if t.state = .active ∧ t.owned then [⟨s.scene, .native (.rollback t.native mode)⟩] else []

theorem abortion_of_inactive {t : Transaction σ} (inactive : t.state ≠ .active) (mode : Mode)
    (s : Session σ) : t.abortion mode s = [] := if_neg fun own => inactive own.1

theorem abortion_calls (t : Transaction σ) (mode : Mode) (s : Session σ) :
    ∀ call ∈ (t.abortion mode s).filterMap (·.entry.call?), call.isCompletion = true := by
  unfold abortion
  split
  · exact List.forall_mem_singleton.2 rfl
  · exact List.forall_mem_nil _

/-- The open is given back, after all that the driver is asked to complete. -/
def Releases (mode : Mode) (t : Transaction σ) (s u : Session σ) : Prop :=
  ∃ made v, s.Issues made v ∧ (∀ call ∈ made, call.isCompletion = true) ∧
    (t.ceased v).GivesBack mode t.connection true u

theorem abortion_completes (t : Transaction σ) (mode : Mode) (s : Session σ) :
    (t.abortion mode s).filter (Facet.completions.sees ·.entry) = t.abortion mode s := by
  unfold abortion
  split <;> rfl

end Transaction

namespace TransactionUse

variable [Driver σ]

def perform : TransactionUse → Transaction σ → Engine σ (Transaction σ)
  | complete completion mode, t => return (← t.complete mode completion).2
  | dispose mode, t => return (← t.dispose mode).2
  | drop, t => do
    t.drop
    return t.retired

/-- The wrapper ends: it is disposed or dropped, or the driver completes its transaction. -/
def EndsWith (use : TransactionUse) (t : Transaction σ) (s u : Session σ) : Prop :=
  use.isEnding = true ∨ ∃ completion, s.Completes completion t.native u

/-- How a use of a wrapper goes, to the wrapper and the session after it. -/
inductive Goes (t : Transaction σ) (s : Session σ) :
    TransactionUse → Transaction σ → Session σ → Prop where
  | unasked {completion : Completion} {mode : Mode}
      (stops : t.state ≠ .active ∨ mode.checkpoint s.scene.cancelled ≠ .ok ()) :
      Goes t s (.complete completion mode) t s
  | failed {completion : Completion} {mode : Mode} {failure : Failure} {u : Session σ}
      (active : t.state = .active)
      (fails : ((completion.native t.native).perform mode s.scene).1 = .error failure)
      (adds : s.Adds [⟨s.scene, .native (completion.note t.native mode)⟩] u) :
      Goes t s (.complete completion mode) t u
  | completed {completion : Completion} {mode : Mode} {v u : Session σ} (active : t.state = .active)
      (succeeds : ((completion.native t.native).perform mode s.scene).1 = .ok ())
      (adds : s.Adds [⟨s.scene, .native (completion.note t.native mode)⟩] v)
      (gives : (t.ceased v).GivesBack mode t.connection true u) (hides : v.Hides .completions u) :
      Goes t s (.complete completion mode) { t with state := completion.state, released := true } u
  | spent {use : TransactionUse} {u : Session σ} (ending : use.isEnding = true)
      (disposed : t.state = .disposed) (adds : s.Adds [] u) : Goes t s use t u
  | ended {use : TransactionUse} {v u : Session σ} (ending : use.isEnding = true)
      (undisposed : t.state ≠ .disposed) (adds : s.Adds (t.abortion use.mode s) v)
      (gives : (t.ceased v).GivesBack use.mode t.connection (t.state = .active) u)
      (hides : v.Hides .completions u) : Goes t s use t.retired u

end TransactionUse

namespace Transaction

variable [Driver σ]

theorem abort_adds (mode : Mode) (t : Transaction σ) (s : Session σ) :
    s.Adds (t.abortion mode s) (t.abort mode s).2 := by
  unfold abortion
  by_cases own : t.state = .active ∧ t.owned
  · rw [if_pos own]
    exact (abort_of_own own mode s).2
  · rw [if_neg own, abort_of_other own]
    exact .refl s

theorem clear_hides (mode : Mode) (t : Transaction σ) (s : Session σ) :
    s.Hides .completions (t.clear mode s).2 := by
  have ceased : s.Hides .completions (t.ceased s) := .of_journal_eq rfl
  cases released : t.released with
  | true =>
    rw [clear_of_released released]
    exact ceased
  | false =>
    rw [clear_of_held released]
    have closed : Engine.Obeys (Hides (σ := σ) .completions) (t.connection.releaseOutcome mode) :=
      ConnectionId.obeys_releaseOutcome (allows_hides rfl) fun _ => .of_journal_eq rfl
    exact ceased.trans (closed _)

theorem clear_givesBack (mode : Mode) (t : Transaction σ) (s : Session σ) :
    (t.ceased s).GivesBack mode t.connection (!t.released) (t.clear mode s).2 ∧
      (t.clear mode s).1.2 = { t with released := true } := by
  cases released : t.released with
  | true =>
    rw [clear_of_released released]
    refine ⟨.of_issues (.refl _), ?_⟩
    rw [← released]
  | false =>
    rw [clear_of_held released]
    exact ⟨NativeCommand.releaseOutcome_givesBack mode t.connection _, rfl⟩

theorem dispose_retires {t : Transaction σ} (whole : t.Whole) (mode : Mode) (s : Session σ) :
    (t.dispose mode s).1.2 = t.retired := by
  by_cases disposed : t.state = .disposed
  · have released : t.released = true := whole.2 (by simp [disposed])
    rw [dispose_of_disposed mode disposed, retired, ← disposed, ← released]
  · rw [dispose_of_undisposed disposed]
    exact (clear_givesBack mode { t with state := .disposed } _).2

theorem dispose_goes {t : Transaction σ} (whole : t.Whole) {use : TransactionUse}
    (ending : use.isEnding = true) (s : Session σ) {u : Session σ}
    (reported : (t.dispose use.mode s).2.Adds [] u) : TransactionUse.Goes t s use t.retired u := by
  by_cases disposed : t.state = .disposed
  · rw [← dispose_retires whole use.mode s]
    rw [dispose_of_disposed use.mode disposed] at reported ⊢
    exact .spent ending disposed reported
  · rw [dispose_of_undisposed disposed] at reported
    have gives := (clear_givesBack use.mode { t with state := .disposed } (t.abort use.mode s).2).1
    have hides := clear_hides use.mode { t with state := .disposed } (t.abort use.mode s).2
    dsimp only at gives
    rw [whole.held] at gives
    exact .ended ending disposed (abort_adds use.mode t s) (gives.before reported.issues)
      (hides.before (reported.shows _))

end Transaction

namespace TransactionUse

variable [Driver σ] {t t' : Transaction σ} {use : TransactionUse} {s u : Session σ}

theorem complete_goes (completion : Completion) (mode : Mode) (whole : t.Whole) (s : Session σ) :
    Goes t s (.complete completion mode) (t.complete mode completion s).1.2
      (t.complete mode completion s).2 := by
  have completing := Transaction.complete_completing mode completion t s
  generalize (t.complete mode completion s).1.1 = outcome, (t.complete mode completion s).1.2 = t',
    (t.complete mode completion s).2 = u at completing
  cases completing with
  | refused ended => exact .unasked (.inl ended)
  | stopped active stops => exact .unasked (.inr (by simp [stops]))
  | failed active enters fails adds => exact .failed active fails adds
  | @succeeded v active enters succeeds adds =>
    obtain ⟨gives, ends⟩ := Transaction.clear_givesBack mode { t with state := completion.state } v
    dsimp only at gives
    rw [whole.held, decide_eq_true active] at gives
    rw [ends]
    exact .completed active succeeds adds gives (Transaction.clear_hides mode _ v)

theorem perform_goes (use : TransactionUse) (whole : t.Whole) (s : Session σ) :
    Goes t s use (use.perform t s).1 (use.perform t s).2 := by
  cases use with
  | complete completion mode => exact complete_goes completion mode whole s
  | dispose mode =>
    have ends : ((dispose mode).perform t s).1 = t.retired := Transaction.dispose_retires whole mode s
    rw [ends]
    exact Transaction.dispose_goes whole rfl s (.refl _)
  | drop => exact Transaction.dispose_goes whole rfl s (Transaction.drop_adds t s)

namespace Goes

theorem whole (goes : Goes t s use t' u) (whole : t.Whole) : t'.Whole := by
  cases goes with
  | unasked => exact whole
  | failed => exact whole
  | @completed tried => exact iff_of_true rfl tried.state_ne_active
  | spent => exact whole
  | ended => exact iff_of_true rfl nofun

theorem kin (goes : Goes t s use t' u) : t.Kin t' := by cases goes <;> exact ⟨rfl, rfl, rfl, rfl⟩

theorem inactive_of_completes {completion : Completion} (goes : Goes t s use t' u)
    (completes : s.Completes completion t.native u) : t'.state ≠ .active := by
  obtain ⟨ms, shows, m, member, mode, entry, succeeds⟩ := completes
  cases goes with
  | unasked stops =>
    cases shows.unique (.of_journal_eq rfl)
    cases member
  | @failed tried mode' _ _ active fails adds =>
    cases shows.unique (shows_completion tried adds)
    cases List.mem_singleton.1 member
    obtain ⟨rfl, rfl⟩ := Completion.note_injective (Entry.native.inj entry)
    rw [fails] at succeeds
    cases succeeds
  | @completed tried => exact tried.state_ne_active
  | spent _ disposed => simp [disposed]
  | ended => exact nofun

theorem completes_of_state {completion : Completion} (goes : Goes t s use t' u)
    (state : t'.state = completion.state) :
    t.state = completion.state ∨ s.Completes completion t.native u := by
  cases goes with
  | unasked => exact .inl state
  | failed => exact .inl state
  | @completed tried mode v _ active succeeds adds gives hides =>
    cases Completion.state_injective state
    exact .inr (completes_of_call succeeds adds hides)
  | spent => exact .inl state
  | ended => cases completion <;> cases state

theorem active_iff (goes : Goes t s use t' u) :
    t'.state = .active ↔ t.state = .active ∧ ¬ use.EndsWith t s u := by
  constructor
  · intro active
    refine ⟨?_, ?_⟩
    · cases goes with
      | unasked => exact active
      | failed => exact active
      | @completed tried => exact absurd active tried.state_ne_active
      | spent => exact active
      | ended => cases active
    · rintro (ending | ⟨completion, completes⟩)
      · cases goes with
        | unasked => cases ending
        | failed => cases ending
        | completed => cases ending
        | spent _ disposed => simp [disposed] at active
        | ended => cases active
      · exact goes.inactive_of_completes completes active
  · rintro ⟨active, lasts⟩
    cases goes with
    | unasked => exact active
    | failed => exact active
    | completed _ succeeds adds _ hides =>
      exact absurd (.inr ⟨_, completes_of_call succeeds adds hides⟩) lasts
    | spent ending => exact absurd (.inl ending) lasts
    | ended ending => exact absurd (.inl ending) lasts

theorem same_of_disposed (goes : Goes t s use t' u) (disposed : t.state = .disposed) : t' = t := by
  cases goes with
  | unasked => rfl
  | failed => rfl
  | completed active => simp [disposed] at active
  | spent => rfl
  | ended _ undisposed => exact absurd disposed undisposed

theorem shows_abortion (goes : Goes t s use t' u) (ending : use.isEnding = true) :
    s.Shows .completions (t.abortion use.mode s) u := by
  cases goes with
  | unasked => cases ending
  | failed => cases ending
  | completed => cases ending
  | spent _ disposed adds =>
    rw [Transaction.abortion_of_inactive (by simp [disposed])]
    exact adds.shows .completions
  | ended _ _ adds gives hides =>
    have shown := adds.shows .completions
    rw [t.abortion_completes] at shown
    exact shown.before hides

/-- Whatever the use is, the driver is asked for one completion at most. -/
theorem shows_at_most_one (goes : Goes t s use t' u) :
    s.Shows .completions [] u ∨ ∃ completion : Completion,
      s.Shows .completions [⟨s.scene, .native (completion.note t.native use.mode)⟩] u := by
  cases goes with
  | unasked => exact .inl (.of_journal_eq rfl)
  | @failed tried _ _ _ _ _ adds => exact .inr ⟨tried, shows_completion tried adds⟩
  | @completed tried _ _ _ _ _ adds _ hides =>
    exact .inr ⟨tried, (shows_completion tried adds).before hides⟩
  | spent _ _ adds => exact .inl (adds.shows .completions)
  | ended ending undisposed adds gives hides =>
    have shown := shows_abortion (.ended ending undisposed adds gives hides) ending
    unfold Transaction.abortion at shown
    split at shown
    case isTrue => exact .inr ⟨.rollback, shown⟩
    case isFalse => exact .inl shown

theorem shows_of_completes {completion : Completion} (goes : Goes t s use t' u)
    (completes : s.Completes completion t.native u) :
    s.Shows .completions [⟨s.scene, .native (completion.note t.native use.mode)⟩] u := by
  obtain ⟨ms, shows, m, member, mode, entry, -⟩ := completes
  rcases goes.shows_at_most_one with none | ⟨asked, one⟩
  · rw [shows.unique none] at member
    cases member
  · rw [shows.unique one, List.mem_singleton] at member
    subst member
    obtain ⟨rfl, -⟩ := Completion.note_injective (Entry.native.inj entry)
    exact one

theorem hides_of_inactive (goes : Goes t s use t' u) (inactive : t.state ≠ .active) :
    s.Hides .completions u := by
  cases goes with
  | unasked => exact .of_journal_eq rfl
  | failed active => exact absurd active inactive
  | completed active => exact absurd active inactive
  | spent _ _ adds => exact adds.shows .completions
  | ended _ _ adds gives hides =>
    rw [Transaction.abortion_of_inactive inactive] at adds
    exact (adds.shows .completions).trans hides

theorem releases (goes : Goes t s use t' u) (active : t.state = .active)
    (ends : use.EndsWith t s u) : t.Releases use.mode s u := by
  have inactive : t'.state ≠ .active := fun still => (goes.active_iff.1 still).2 ends
  cases goes with
  | unasked => exact absurd active inactive
  | failed => exact absurd active inactive
  | @completed tried mode v _ _ succeeds adds gives hides =>
    exact ⟨_, v, adds.issues, List.forall_mem_singleton.2 (tried.isCompletion_note t.native mode),
      gives⟩
  | spent => exact absurd active inactive
  | @ended _ v _ _ _ adds gives hides =>
    rw [decide_eq_true active] at gives
    exact ⟨_, v, adds.issues, t.abortion_calls use.mode s, gives⟩

theorem retains (goes : Goes t s use t' u) (lasts : ¬ (t.state = .active ∧ use.EndsWith t s u)) :
    s.Retains u := by
  cases goes with
  | unasked => exact .of_issues (.refl s) (List.forall_mem_nil _)
  | @failed tried mode _ _ active fails adds =>
    exact .of_issues adds.issues
      (List.forall_mem_singleton.2 (tried.isCompletion_note t.native mode))
  | @completed tried mode v _ active succeeds adds gives hides =>
    exact absurd ⟨active, .inr ⟨_, completes_of_call succeeds adds hides⟩⟩ lasts
  | spent _ _ adds => exact .of_issues adds.issues (List.forall_mem_nil _)
  | @ended _ v _ ending _ adds gives hides =>
    have inactive : t.state ≠ .active := fun active => lasts ⟨active, .inl ending⟩
    rw [decide_eq_false inactive] at gives
    refine ⟨?_, _, ?_, t.abortion_calls use.mode s⟩
    · funext i
      rw [gives.openCount, if_neg (by simp), t.ceased_openCount, adds.issues.openCount, Nat.sub_zero]
    · exact gives.calls.trans ((List.append_nil _).trans adds.issues.calls)

end Goes

/-- The use has the driver complete the native transaction, and it does. -/
def Completes (completion : Completion) (use : TransactionUse) (t : Transaction σ) (s : Session σ) :
    Prop := s.Completes completion t.native (use.perform t s).2

def CompletesAny (use : TransactionUse) (t : Transaction σ) (s : Session σ) : Prop :=
  ∃ completion, use.Completes completion t s

/-- The use disposes or drops the wrapper, or the driver completes its transaction. -/
def Ends (use : TransactionUse) (t : Transaction σ) (s : Session σ) : Prop :=
  use.EndsWith t s (use.perform t s).2

def Releases (use : TransactionUse) (t : Transaction σ) (s : Session σ) : Prop :=
  t.Releases use.mode s (use.perform t s).2

def Retains (use : TransactionUse) (t : Transaction σ) (s : Session σ) : Prop :=
  s.Retains (use.perform t s).2

end TransactionUse

/-- The uses of a wrapper, in order. Anything may happen between them, so each comes with the
session that it finds. -/
abbrev TransactionLife (σ : Type) := List (TransactionUse × Session σ)

namespace Transaction

variable [Driver σ] {t : Transaction σ} {past later : TransactionLife σ}
  {P : TransactionUse → Transaction σ → Session σ → Prop}

def used (t : Transaction σ) (past : TransactionLife σ) : Transaction σ :=
  past.foldl (fun t p => (p.1.perform t p.2).1) t

/-- Some use is such, with the wrapper and the session that it finds. -/
def Sometime (P : TransactionUse → Transaction σ → Session σ → Prop) (t : Transaction σ) :
    TransactionLife σ → Prop
  | [] => False
  | (use, s) :: later => P use t s ∨ Sometime P (use.perform t s).1 later

/-- Every use is such, with the wrapper and the session that it finds. -/
def Throughout (P : TransactionUse → Transaction σ → Session σ → Prop) (t : Transaction σ) :
    TransactionLife σ → Prop
  | [] => True
  | (use, s) :: later => P use t s ∧ Throughout P (use.perform t s).1 later

theorem used_append (t : Transaction σ) (past later : TransactionLife σ) :
    t.used (past ++ later) = (t.used past).used later := List.foldl_append ..

theorem used_whole (whole : t.Whole) (past : TransactionLife σ) : (t.used past).Whole := by
  induction past generalizing t with
  | nil => exact whole
  | cons p past ih => exact ih ((p.1.perform_goes whole p.2).whole whole)

theorem used_kin (whole : t.Whole) (past : TransactionLife σ) : t.Kin (t.used past) := by
  induction past generalizing t with
  | nil => exact .refl t
  | cons p past ih =>
    have goes := p.1.perform_goes whole p.2
    exact goes.kin.trans (ih (goes.whole whole))

theorem used_active_iff (whole : t.Whole) (past : TransactionLife σ) :
    (t.used past).state = .active ↔ t.state = .active ∧ ¬ t.Sometime TransactionUse.Ends past := by
  induction past generalizing t with
  | nil => exact (and_iff_left not_false).symm
  | cons p past ih =>
    have goes := p.1.perform_goes whole p.2
    have rest := ih (goes.whole whole)
    rw [goes.active_iff] at rest
    exact rest.trans (and_assoc.trans (and_congr_right fun _ => not_or.symm))

theorem used_of_disposed (whole : t.Whole) (disposed : t.state = .disposed)
    (later : TransactionLife σ) : t.used later = t := by
  induction later generalizing t with
  | nil => rfl
  | cons p later ih =>
    have same := (p.1.perform_goes whole p.2).same_of_disposed disposed
    change (p.1.perform t p.2).1.used later = t
    rw [same]
    exact ih whole disposed

theorem completes_of_used_state {completion : Completion} (whole : t.Whole)
    (state : (t.used past).state = completion.state) :
    t.state = completion.state ∨ t.Sometime (TransactionUse.Completes completion) past := by
  induction past generalizing t with
  | nil => exact .inl state
  | cons p past ih =>
    have goes := p.1.perform_goes whole p.2
    rcases ih (goes.whole whole) state with before | sometime
    · exact (goes.completes_of_state before).imp_right .inl
    · exact .inr (.inr sometime)

theorem sometime_ends (completes : t.Sometime TransactionUse.CompletesAny past) :
    t.Sometime TransactionUse.Ends past := by
  induction past generalizing t with
  | nil => exact completes
  | cons p past ih => exact completes.imp .inr ih

theorem sometime_ends_append (past : TransactionLife σ) {use : TransactionUse}
    (ending : use.isEnding = true) (s : Session σ) :
    t.Sometime TransactionUse.Ends (past ++ [(use, s)]) := by
  induction past generalizing t with
  | nil => exact .inl (.inl ending)
  | cons p past ih => exact .inr ih

theorem throughout_retains (whole : t.Whole) (inactive : t.state ≠ .active)
    (later : TransactionLife σ) : t.Throughout TransactionUse.Retains later := by
  induction later generalizing t with
  | nil => trivial
  | cons p later ih =>
    have goes := p.1.perform_goes whole p.2
    refine ⟨goes.retains fun both => inactive both.1, ih (goes.whole whole) ?_⟩
    exact fun active => inactive (goes.active_iff.1 active).1

/-- In this life the open is given back once: by the first use with which the wrapper ends. -/
def ReleasedOnce (t : Transaction σ) (life : TransactionLife σ) : Prop :=
  ∃ before use s after, life = before ++ (use, s) :: after ∧
    t.Throughout (fun use t s => ¬ use.Ends t s ∧ use.Retains t s) before ∧
    (use.Ends (t.used before) s ∧ use.Releases (t.used before) s) ∧
    (t.used (before ++ [(use, s)])).Throughout TransactionUse.Retains after

theorem releasedOnce_of_active (whole : t.Whole) (active : t.state = .active)
    {life : TransactionLife σ} (ends : t.Sometime TransactionUse.Ends life) :
    t.ReleasedOnce life := by
  induction life generalizing t with
  | nil => cases ends
  | cons p rest ih =>
    have goes := p.1.perform_goes whole p.2
    by_cases here : p.1.Ends t p.2
    · refine ⟨[], p.1, p.2, rest, rfl, trivial, ⟨here, goes.releases active here⟩, ?_⟩
      refine throughout_retains (goes.whole whole) (fun still => ?_) rest
      exact (goes.active_iff.1 still).2 here
    · obtain ⟨before, use, s, after, rfl, lasts, released, spent⟩ :=
        ih (goes.whole whole) (goes.active_iff.2 ⟨active, here⟩) (ends.resolve_left here)
      exact ⟨p :: before, use, s, after, rfl,
        ⟨⟨here, goes.retains fun both => here both.2⟩, lasts⟩, released, spent⟩

/-- What may come of a wrapper, however it is used. -/
structure Lifecycle (t : Transaction σ) : Prop where
  kin (past : TransactionLife σ) : t.Kin (t.used past)
  /-- The use by which the driver completes the transaction asks for just that, once. -/
  asks (past : TransactionLife σ) {use : TransactionUse} {s : Session σ} {completion : Completion}
    (completes : use.Completes completion (t.used past) s) :
    s.Shows .completions [⟨s.scene, .native (completion.note t.native use.mode)⟩]
      (use.perform (t.used past) s).2
  /-- Once the driver has completed the transaction, it is not asked again. -/
  once {past : TransactionLife σ}
    (completes : t.Sometime TransactionUse.CompletesAny past)
    (use : TransactionUse) (s : Session σ) : s.Hides .completions (use.perform (t.used past) s).2
  /-- A wrapper that is not active refuses to be completed. -/
  refuses {past : TransactionLife σ} (inactive : (t.used past).state ≠ .active) (mode : Mode)
    (completion : Completion) (s : Session σ) :
    (t.used past).complete mode completion s =
      ((.error (.error (t.used past).completedError), t.used past), s)
  active_iff (past : TransactionLife σ) :
    (t.used past).state = .active ↔ ¬ t.Sometime TransactionUse.Ends past
  /-- Disposing rolls back once if the wrapper owns the transaction and is still active, and
  completes nothing otherwise. -/
  aborts (past : TransactionLife σ) {use : TransactionUse} (ending : use.isEnding = true)
    (s : Session σ) :
    s.Shows .completions (if (t.used past).state = .active ∧ t.owned
      then [⟨s.scene, .native (.rollback t.native use.mode)⟩] else []) (use.perform (t.used past) s).2
  releases (past : TransactionLife σ) (s : Session σ) : t.ReleasedOnce (past ++ [(.drop, s)])
  completes_of_state {past : TransactionLife σ} {completion : Completion}
    (state : (t.used past).state = completion.state) :
    t.Sometime (TransactionUse.Completes completion) past
  disposed {past : TransactionLife σ} (disposed : (t.used past).state = .disposed)
    (later : TransactionLife σ) : t.used (past ++ later) = t.used past

theorem lifecycle_of_active (whole : t.Whole) (active : t.state = .active) : t.Lifecycle where
  kin := used_kin whole
  asks past use s completion completes := by
    have goes := use.perform_goes (used_whole whole past) s
    have shown := goes.shows_of_completes completes
    rwa [(used_kin whole past).native] at shown
  once {past} completes use s := by
    have goes := use.perform_goes (used_whole whole past) s
    refine goes.hides_of_inactive fun still => ?_
    exact ((used_active_iff whole past).1 still).2 (sometime_ends completes)
  refuses inactive mode completion s := complete_of_inactive inactive mode completion s
  active_iff past := (used_active_iff whole past).trans (and_iff_right active)
  aborts past use ending s := by
    have goes := use.perform_goes (used_whole whole past) s
    have shown := goes.shows_abortion ending
    have kin := used_kin whole past
    unfold abortion at shown
    rwa [kin.native, kin.owned] at shown
  releases past s := releasedOnce_of_active whole active (sometime_ends_append past rfl s)
  completes_of_state {past completion} state :=
    (completes_of_used_state whole state).resolve_left fun still => by
      rw [active] at still
      exact completion.state_ne_active still.symm
  disposed {past} disposed later := by
    rw [used_append, used_of_disposed (used_whole whole past) disposed]

omit [Driver σ] in
theorem wrap_owned (c : ConnectionId) (native : NativeTransaction) (id : TransactionId)
    (owned : Bool) (s : Session σ) : (wrap c native id owned s).1.owned = owned := by
  unfold wrap
  simp only [Engine.bind_apply]
  split <;> rfl

/-- A wrapper as it was returned: it owns the transaction that was begun for it, but not one that it
only takes part in. -/
inductive Returned : Bool → Transaction σ → Prop where
  | started {mode : Mode} {c : ConnectionId} {isolation : IsolationLevel} {s u : Session σ}
      {t : Transaction σ} (starts : (start mode c isolation).observe s = (.ok t, u)) :
      Returned true t
  | adopted {mode : Mode} {c : ConnectionId} {native : NativeTransaction} {s u : Session σ}
      {t : Transaction σ} (adopts : (adopt mode c native).observe s = (.ok t, u)) :
      Returned false t

theorem Returned.wrapped {owned : Bool} (returned : Returned owned t) :
    ∃ c native id s, t = (wrap c native id owned s).1 := by
  cases returned with
  | @started mode c isolation s u _ starts =>
    have beginning := start_beginning mode c isolation s
    rw [starts] at beginning
    cases beginning with
    | begun opens begins => exact ⟨_, _, _, _, rfl⟩
  | adopted adopts =>
    obtain ⟨_, _, _, rest⟩ := Attempt.ok_of_bind_ok adopts
    obtain ⟨_, _, _, rest⟩ := Attempt.ok_of_bind_ok rest
    obtain ⟨_, _, _, rest⟩ := Attempt.ok_of_bind_ok rest
    obtain ⟨_, _, _, rest⟩ := Attempt.ok_of_bind_ok rest
    cases rest
    exact ⟨_, _, _, _, rfl⟩

/-- However a wrapper is used: the driver completes its transaction at most once and is asked for
nothing after that, the wrapper rolls back when it is given up unfinished if that is its to do, and
it gives its open back once. -/
theorem lifecycle_of_returned {owned : Bool} (returned : Returned owned t) :
    t.owned = owned ∧ t.Lifecycle := by
  obtain ⟨c, native, id, s, rfl⟩ := returned.wrapped
  have active := (wrap_apply c native id owned s).2.1
  have unreleased := wrap_intact c native id owned s active
  refine ⟨wrap_owned c native id owned s, lifecycle_of_active ?_ active⟩
  exact iff_of_false (by simp [unreleased]) (not_not_intro active)

omit [Driver σ] in
/-- One wrapper begins a transaction, and on another connection one takes part in the same. -/
theorem lifecycle_of_started_and_adopted :
    let s : Session Script := { scene := ⟨{}, none⟩ }
    let native : NativeTransaction := ⟨⟨0⟩, "n1", .serializable⟩
    ∃ t t' u u', (start .blocking ⟨0⟩ .serializable).observe s = (.ok t, u) ∧ t.native = native ∧
      (adopt .async ⟨1⟩ native).observe u = (.ok t', u') ∧
      (t.owned = true ∧ t.Lifecycle) ∧ (t'.owned = false ∧ t'.Lifecycle) := by
  intro s native
  have begins : ((start .blocking ⟨0⟩ .serializable).observe s).1.toOption.map (·.native) =
      some native := by decide +kernel +zetaReduce
  have joins : ((adopt .async ⟨1⟩ native).observe
      ((start .blocking ⟨0⟩ .serializable).observe s).2).1.toOption.isSome = true := by
    decide +kernel +zetaReduce
  rcases starts : (start .blocking ⟨0⟩ .serializable).observe s with ⟨failure | t, u⟩
  all_goals rw [starts] at begins joins
  · cases begins
  rcases adopts : (adopt .async ⟨1⟩ native).observe u with ⟨failure | t', u'⟩
  all_goals rw [adopts] at joins
  · cases joins
  exact ⟨t, t', u, u', rfl, Option.some.inj begins, adopts, lifecycle_of_returned (.started starts),
    lifecycle_of_returned (.adopted adopts)⟩

end Transaction

end SqlExecution
