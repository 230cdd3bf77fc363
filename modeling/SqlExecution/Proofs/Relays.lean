import SqlExecution.Proofs.Journals

/-! The rule that hooks follow. An event is a relay: each hook is given what the one before it
returned, and the first that fails ends it. An operation between two events is governed by its
hooks: it is performed only if the hooks before it supply no result, and the hooks after it start
from the result, wherever that is from. -/

namespace SqlExecution

variable {σ α ι φ ψ : Type}

open Session

/-- An event: what may stop it before a hook, what is noted of a hook, and what the hook makes of
the value that it is given. -/
structure Round (σ ι α φ : Type) where
  stops : Scene σ → Except φ Unit
  notes : ι → α → Scene σ → Entry
  hook : ι → α → Scene σ → Except φ α × Scene σ

/-- The hooks are called in order, each with what the one before it returned, and none after the
first that fails. -/
inductive Relay (round : Round σ ι α φ) :
    List ι → α → Scene σ → List (Moment σ) → Except φ α → Scene σ → Prop where
  | done {a : α} {scene : Scene σ} : Relay round [] a scene [] (.ok a) scene
  | stopped {i : ι} {rest : List ι} {a : α} {failure : φ} {scene : Scene σ}
      (stops : round.stops scene = .error failure) :
      Relay round (i :: rest) a scene [] (.error failure) scene
  | failed {i : ι} {rest : List ι} {a : α} {failure : φ} {scene scene' : Scene σ}
      (goes : round.stops scene = .ok ())
      (fails : round.hook i a scene = (.error failure, scene')) :
      Relay round (i :: rest) a scene [⟨scene, round.notes i a scene⟩] (.error failure) scene'
  | passed {i : ι} {rest : List ι} {a b : α} {ms : List (Moment σ)} {o : Except φ α}
      {scene scene' last : Scene σ}
      (goes : round.stops scene = .ok ())
      (passes : round.hook i a scene = (.ok b, scene'))
      (later : Relay round rest b scene' ms o last) :
      Relay round (i :: rest) a scene (⟨scene, round.notes i a scene⟩ :: ms) o last

/-- An operation between the event before it, whose hooks may supply its result, and the event after
it. -/
structure Guarded (σ ι α φ ψ : Type) where
  before : Round σ ι (Interception α) φ
  stops : Scene σ → Except φ Unit
  call : NativeCall
  native : Scene σ → Except φ α × Scene σ
  after : Round σ ι α ψ

namespace Guarded

/-- Where the result comes from: the operation is performed, once, if the hooks before it supply
none. -/
inductive Supplies (g : Guarded σ ι α φ ψ) (is : List ι) (scene : Scene σ) :
    List (Moment σ) → Except φ α → Scene σ → Prop where
  | refused {ms : List (Moment σ)} {failure : φ} {last : Scene σ}
      (fails : Relay g.before is .noResult scene ms (.error failure) last) :
      Supplies g is scene ms (.error failure) last
  | carried {ms : List (Moment σ)} {a : α} {last : Scene σ}
      (carries : Relay g.before is .noResult scene ms (.ok (.hasResult a)) last) :
      Supplies g is scene ms (.ok a) last
  | stopped {ms : List (Moment σ)} {failure : φ} {last : Scene σ}
      (passes : Relay g.before is .noResult scene ms (.ok .noResult) last)
      (stops : g.stops last = .error failure) :
      Supplies g is scene ms (.error failure) last
  | performed {ms : List (Moment σ)} {o : Except φ α} {scene' last : Scene σ}
      (passes : Relay g.before is .noResult scene ms (.ok .noResult) scene')
      (goes : g.stops scene' = .ok ())
      (performs : g.native scene' = (o, last)) :
      Supplies g is scene (ms ++ [⟨scene', .native g.call⟩]) o last

/-- The hooks after the operation start from the result; without a result they are not called. -/
inductive Governs (g : Guarded σ ι α φ ψ) (is : List ι) (scene : Scene σ) :
    List (Moment σ) → Except φ (Except ψ α) → Scene σ → Prop where
  | unsupplied {ms : List (Moment σ)} {failure : φ} {last : Scene σ}
      (fails : g.Supplies is scene ms (.error failure) last) :
      Governs g is scene ms (.error failure) last
  | supplied {ms ns : List (Moment σ)} {a : α} {o : Except ψ α} {scene' last : Scene σ}
      (supplies : g.Supplies is scene ms (.ok a) scene')
      (concludes : Relay g.after is a scene' ns o last) :
      Governs g is scene (ms ++ ns) (.ok o) last

end Guarded

section Moments

variable {P : Moment σ → Prop} {is : List ι} {scene last : Scene σ} {ms : List (Moment σ)}

theorem Relay.forall_moments {round : Round σ ι α φ} {a : α} {o : Except φ α}
    (notes : ∀ i a scene, P ⟨scene, round.notes i a scene⟩)
    (h : Relay round is a scene ms o last) : ∀ m ∈ ms, P m := by
  induction h with
  | done => simp
  | stopped _ => simp
  | failed _ _ => simpa using notes _ _ _
  | passed _ _ _ ih => exact List.forall_mem_cons.2 ⟨notes _ _ _, ih⟩

variable {g : Guarded σ ι α φ ψ} (before : ∀ i r scene, P ⟨scene, g.before.notes i r scene⟩)
  (calls : ∀ scene, P ⟨scene, .native g.call⟩)
include before calls

theorem Guarded.Supplies.forall_moments {o : Except φ α} (h : g.Supplies is scene ms o last) :
    ∀ m ∈ ms, P m := by
  cases h with
  | refused fails => exact fails.forall_moments before
  | carried carries => exact carries.forall_moments before
  | stopped passes _ => exact passes.forall_moments before
  | performed passes _ _ =>
    exact List.forall_mem_append.2 ⟨passes.forall_moments before, by simpa using calls _⟩

theorem Guarded.Governs.forall_moments (after : ∀ i a scene, P ⟨scene, g.after.notes i a scene⟩)
    {o : Except φ (Except ψ α)} (h : g.Governs is scene ms o last) : ∀ m ∈ ms, P m := by
  cases h with
  | unsupplied fails => exact fails.forall_moments before calls
  | supplied supplies concludes =>
    exact List.forall_mem_append.2
      ⟨supplies.forall_moments before calls, concludes.forall_moments after⟩

end Moments

namespace Session

/-- A relay takes a session to another, and the journal shows nothing but its hooks. -/
structure Relays (round : Round σ ι α φ) (is : List ι) (a : α) (s : Session σ)
    (ms : List (Moment σ)) (o : Except φ α) (t : Session σ) : Prop where
  relay : Relay round is a s.scene ms o t.scene
  shows : Shows .reached s ms t

variable {round : Round σ ι α φ} {is : List ι} {a : α} {o : Except φ α} {s t u : Session σ}
  {ms : List (Moment σ)}

theorem Relays.after (unnoticed : Unnoticed s t) (h : Relays round is a t ms o u) :
    Relays round is a s ms o u :=
  ⟨unnoticed.scene ▸ h.relay, (unnoticed.hidden _).trans h.shows⟩

theorem Relays.cons {i : ι} {b : α} {scene : Scene σ} (goes : round.stops s.scene = .ok ())
    (seen : Facet.reached.sees (round.notes i a s.scene) = true)
    (passes : round.hook i a s.scene = (.ok b, scene))
    (later : Relays round is b { s.noted (round.notes i a s.scene) with scene } ms o t) :
    Relays round (i :: is) a s (⟨s.scene, round.notes i a s.scene⟩ :: ms) o t := by
  obtain ⟨relay, added, journal, rfl⟩ := later
  refine ⟨.passed goes passes relay, ⟨s.scene, round.notes i a s.scene⟩ :: added, ?_, ?_⟩
  · simp [journal, noted]
  · simp [seen]

theorem Relays.singleton {i : ι} {failure : φ} {scene : Scene σ}
    (goes : round.stops s.scene = .ok ())
    (seen : Facet.reached.sees (round.notes i a s.scene) = true)
    (fails : round.hook i a s.scene = (.error failure, scene)) :
    Relays round (i :: is) a s [⟨s.scene, round.notes i a s.scene⟩] (.error failure)
      { s.noted (round.notes i a s.scene) with scene } :=
  ⟨.failed goes fails, _, rfl, by simp [seen]⟩

end Session

/-- An event whose hooks come in two forms; it may be stopped at a checkpoint before each. -/
def Round.ofDual (mode : Mode) (stops : Bool) (notes : ι → α → Scene σ → Entry)
    (hook : ι → α → Dual σ α) : Round σ ι α Failure where
  stops scene := if stops then mode.checkpoint scene.cancelled else .ok ()
  notes := notes
  hook i a := (hook i a).perform mode

section FoldHooks

variable {mode : Mode} {stops : Bool} {deliver : ι → α → Engine σ Unit} {hook : ι → α → Dual σ α}
  {notes : ι → α → Scene σ → Entry}
  (delivers : ∀ i a s, deliver i a s = ((), s.noted (notes i a s.scene)))
include delivers

theorem Attempt.foldHooks_cons_apply (i : ι) (rest : List ι) (a : α) (s : Session σ) :
    (foldHooks mode stops deliver hook (i :: rest) a).observe s =
      match (Round.ofDual mode stops notes hook).stops s.scene with
      | .error failure => (.error failure, s)
      | .ok () =>
        match (hook i a).perform mode s.scene with
        | (.error failure, scene) => (.error failure, { s.noted (notes i a s.scene) with scene })
        | (.ok b, scene) => (foldHooks mode stops deliver hook rest b).observe
            { s.noted (notes i a s.scene) with scene } := by
  let called : Attempt σ α := do
    lift (deliver i a)
    let next ← ExceptT.mk (Engine.act ((hook i a).perform mode))
    foldHooks mode stops deliver hook rest next
  have calls : called.observe s =
      match (hook i a).perform mode s.scene with
      | (.error failure, scene) => (.error failure, { s.noted (notes i a s.scene) with scene })
      | (.ok b, scene) => (foldHooks mode stops deliver hook rest b).observe
          { s.noted (notes i a s.scene) with scene } := by
    have acts : observe (ExceptT.mk (Engine.act ((hook i a).perform mode)) : Attempt σ α)
        (s.noted (notes i a s.scene)) = (((hook i a).perform mode s.scene).1,
          { s.noted (notes i a s.scene) with scene := ((hook i a).perform mode s.scene).2 }) := rfl
    rw [observe_lift_bind, delivers, observe_bind_apply, acts]
    rcases (hook i a).perform mode s.scene with ⟨_ | b, scene⟩ <;> rfl
  rw [← calls]
  unfold foldHooks
  cases stops with
  | false => rfl
  | true =>
    have checks : (checkpoint mode : Attempt σ Unit).observe s =
        (mode.checkpoint s.scene.cancelled, s) := rfl
    simp only [Round.ofDual, if_true]
    rw [observe_bind_apply, checks]
    rcases mode.checkpoint s.scene.cancelled with _ | _ <;> rfl

theorem Attempt.foldHooks_relays
    (seen : ∀ i a scene, Facet.reached.sees (notes i a scene) = true) (is : List ι) (a : α)
    (s : Session σ) :
    ∃ ms, Relays (.ofDual mode stops notes hook) is a s ms
      ((foldHooks mode stops deliver hook is a).observe s).1
      ((foldHooks mode stops deliver hook is a).observe s).2 := by
  induction is generalizing a s with
  | nil => exact ⟨[], .done, .of_journal_eq rfl⟩
  | cons i rest ih =>
    rw [foldHooks_cons_apply delivers]
    cases stop : (Round.ofDual mode stops notes hook).stops s.scene with
    | error failure => exact ⟨[], .stopped stop, .of_journal_eq rfl⟩
    | ok _ =>
      rcases acts : (hook i a).perform mode s.scene with ⟨failure | b, scene⟩
      · exact ⟨_, .singleton stop (seen i a s.scene) acts⟩
      · obtain ⟨ms, later⟩ := ih b { s.noted (notes i a s.scene) with scene }
        exact ⟨_, .cons stop (seen i a s.scene) acts later⟩

end FoldHooks

/-- After the operation was performed, in the scene that it left. -/
def Guarded.performed (g : Guarded σ ι α φ ψ) (s : Session σ) (scene : Scene σ) : Session σ :=
  { s.noted (.native g.call) with scene }

/-- A run that its hooks govern, and of which the journal shows nothing but these hooks and the
operation. -/
structure Session.Governed (g : Guarded σ ι α φ ψ) (is : List ι) (s : Session σ)
    (ms : List (Moment σ)) (o : Except φ (Except ψ α)) (t : Session σ) : Prop where
  governs : g.Governs is s.scene ms o t.scene
  shows : Shows .reached s ms t

namespace Session

variable {g : Guarded σ ι α φ ψ} {is : List ι} {s t u v : Session σ} {ms ns : List (Moment σ)}
  {a : α} {o : Except ψ α} {failure : φ}

theorem Governed.after {o : Except φ (Except ψ α)} (unnoticed : Unnoticed s t)
    (h : Governed g is t ms o u) : Governed g is s ms o u :=
  ⟨unnoticed.scene ▸ h.governs, (unnoticed.hidden _).trans h.shows⟩

theorem Governed.shows_all {f : Facet} (finer : Facet.reached.Refines f)
    (before : ∀ i r scene, f.sees (g.before.notes i r scene) = true)
    (calls : f.sees (.native g.call) = true)
    (after : ∀ i a scene, f.sees (g.after.notes i a scene) = true) {o : Except φ (Except ψ α)}
    (h : Governed g is s ms o t) : Shows f s ms t := by
  have seen : ∀ m ∈ ms, f.sees m.entry = true :=
    h.governs.forall_moments before (fun _ => calls) after
  have shown := h.shows.refine finer
  rwa [List.filter_eq_self.2 seen] at shown

theorem governed_of_refused (fails : Relays g.before is .noResult s ms (.error failure) t) :
    Governed g is s ms (.error failure) t :=
  ⟨.unsupplied (.refused fails.relay), fails.shows⟩

theorem governed_of_halted (same : g.before.stops = g.stops)
    (stops : g.stops s.scene = .error failure) :
    Governed g is s [] (.error failure) s := by
  -- A checkpoint that would stop the event before the operation also stops the operation, so
  -- nobody hears of it.
  cases is with
  | nil => exact ⟨.unsupplied (.stopped .done stops), .of_journal_eq rfl⟩
  | cons i rest =>
    rw [← same] at stops
    exact ⟨.unsupplied (.refused (.stopped stops)), .of_journal_eq rfl⟩

theorem governed_of_carried (carries : Relays g.before is .noResult s ms (.ok (.hasResult a)) t)
    (concludes : Relays g.after is a t ns o u) : Governed g is s (ms ++ ns) (.ok o) u :=
  ⟨.supplied (.carried carries.relay) concludes.relay, carries.shows.trans concludes.shows⟩

variable (passes : Relays g.before is .noResult s ms (.ok .noResult) t)
include passes

theorem governed_of_stopped (stops : g.stops t.scene = .error failure) :
    Governed g is s ms (.error failure) t :=
  ⟨.unsupplied (.stopped passes.relay stops), passes.shows⟩

variable (goes : g.stops t.scene = .ok ()) {scene : Scene σ}
include goes

theorem governed_of_failed (fails : g.native t.scene = (.error failure, scene)) :
    Governed g is s (ms ++ [⟨t.scene, .native g.call⟩]) (.error failure) (g.performed t scene) :=
  ⟨.unsupplied (.performed passes.relay goes fails), passes.shows.trans (shows_noted rfl t)⟩

theorem governed_of_performed (performs : g.native t.scene = (.ok a, scene))
    (concludes : Relays g.after is a (g.performed t scene) ns o u) :
    Governed g is s (ms ++ [⟨t.scene, .native g.call⟩] ++ ns) (.ok o) u :=
  ⟨.supplied (.performed passes.relay goes performs) concludes.relay,
    (passes.shows.trans (shows_noted rfl t)).trans concludes.shows⟩

end Session

section Governing

variable {β : Type} {g : Guarded σ ι α Failure ψ} {is : List ι}

/-- Performing the operation and going on with its result. -/
def Guarded.Performs (g : Guarded σ ι α Failure ψ) (rest : α → Attempt σ β) (m : Attempt σ β) :
    Prop :=
  ∀ s, m.observe s =
    match g.stops s.scene with
    | .error failure => (.error failure, s)
    | .ok () =>
      match g.native s.scene with
      | (.error failure, scene) => (.error failure, g.performed s scene)
      | (.ok a, scene) => (rest a).observe (g.performed s scene)

/-- A computation that raises the event before the operation, performs the operation if no result
was supplied, and then raises the event after it. -/
theorem Attempt.governed {before : Attempt σ (Interception α)} {rest : α → Attempt σ β}
    {hand : Except ψ α → Outcome β} (body : Interception α → Attempt σ β)
    (raises : ∀ s, ∃ ms,
      Relays g.before is .noResult s ms (before.observe s).1 (before.observe s).2)
    (carries : ∀ a, body (.hasResult a) = rest a) (performs : g.Performs rest (body .noResult))
    (concludes : ∀ a s, ∃ ms o, Relays g.after is a s ms o ((rest a).observe s).2 ∧
      ((rest a).observe s).1 = hand o) (s : Session σ) :
    ∃ ms o, s.Governed g is ms o ((before >>= body).observe s).2 ∧
      ((before >>= body).observe s).1 = o.bind hand := by
  obtain ⟨ms, raised⟩ := raises s
  rw [observe_bind_apply]
  generalize before.observe s = ends at raised ⊢
  obtain ⟨failure | offered, t⟩ := ends
  · exact ⟨ms, .error failure, governed_of_refused raised, rfl⟩
  · cases offered with
    | hasResult a =>
      dsimp only
      rw [carries]
      obtain ⟨ns, o, concluded, result⟩ := concludes a t
      exact ⟨_, .ok o, governed_of_carried raised concluded, result⟩
    | noResult =>
      dsimp only
      rw [performs t]
      cases goes : g.stops t.scene with
      | error failure => exact ⟨ms, .error failure, governed_of_stopped raised goes, rfl⟩
      | ok _ =>
        rcases asked : g.native t.scene with ⟨failure | a, scene⟩
        · exact ⟨_, .error failure, governed_of_failed raised goes asked, rfl⟩
        · obtain ⟨ns, o, concluded, result⟩ := concludes a (g.performed t scene)
          exact ⟨_, .ok o, governed_of_performed raised goes asked concluded, result⟩

theorem Attempt.governed_unheard {m : Attempt σ β} (hand : Except ψ α → Outcome β)
    (performs : g.Performs (fun a => ofOutcome (hand (.ok a))) m) (s : Session σ) :
    ∃ ms o, s.Governed g [] ms o (m.observe s).2 ∧ (m.observe s).1 = o.bind hand :=
  have raises : ∀ s : Session σ, ∃ ms, Relays g.before [] .noResult s ms
      ((pure .noResult : Attempt σ (Interception α)).observe s).1
      ((pure .noResult : Attempt σ (Interception α)).observe s).2 :=
    fun _ => ⟨[], .done, .of_journal_eq rfl⟩
  governed
    (fun offered => offered.toOption.elim m fun a => ofOutcome (hand (.ok a)))
    raises (fun _ => rfl) performs
    (fun a _ => ⟨[], .ok a, ⟨.done, .of_journal_eq rfl⟩, rfl⟩) s

end Governing

/-! Hooks on failure and disposal only watch. They are called one after the other, each in the scene
that the one before it left. -/

section Watching

variable (tells : ι → Delivery) (act : ι → Act σ Unit)

/-- What is noted of hooks that watch. -/
def watching : List ι → Scene σ → List (Moment σ)
  | [], _ => []
  | i :: rest, x => ⟨x, .hook (tells i)⟩ :: watching rest (act i x).2

/-- The scene that they leave. -/
def watched (is : List ι) (x : Scene σ) : Scene σ := is.foldl (fun x i => (act i x).2) x

theorem entries_watching (is : List ι) (x : Scene σ) :
    (watching tells act is x).map (·.entry) = is.map (.hook ∘ tells) := by
  induction is generalizing x with
  | nil => rfl
  | cons i rest ih => exact congrArg (_ :: ·) (ih _)

theorem Engine.forM_watching (is : List ι) (s : Session σ) :
    let heard := (is.forM fun i => do
      Engine.record (.hook (tells i))
      Engine.act (act i) : Engine σ Unit) s
    s.Shows .reached (watching tells act is s.scene) heard.2 ∧
      heard.2.scene = watched act is s.scene := by
  induction is generalizing s with
  | nil => exact ⟨.of_journal_eq rfl, rfl⟩
  | cons i rest ih =>
    let next : Session σ := { s.noted (.hook (tells i)) with scene := (act i s.scene).2 }
    have told : s.Shows .reached [⟨s.scene, .hook (tells i)⟩] next :=
      (shows_noted rfl s).before (.of_journal_eq rfl)
    obtain ⟨shows, scene⟩ := ih next
    exact ⟨told.trans shows, scene⟩

end Watching

end SqlExecution
