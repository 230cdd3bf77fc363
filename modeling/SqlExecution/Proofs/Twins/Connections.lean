import SqlExecution.Engine.Connection
import SqlExecution.Proofs.Twins.Stillness

/-! Opening and closing in two runs. -/

namespace SqlExecution

variable {σ : Type}

open Session Trace

namespace Blur

variable {b : Blur} {c c' : Connection σ}

theorem released_eq (same : b.connection c = b.connection c') :
    c.released.2 = c'.released.2 ∧ b.connection c.released.1 = b.connection c'.released.1 := by
  have count : c.openCount = c'.openCount := (congrArg Connection.openCount same :)
  have here : c.openedHere = c'.openedHere := (congrArg Connection.openedHere same :)
  unfold Connection.released
  rw [count, here]
  split
  · refine ⟨rfl, ?_⟩
    exact congrArg (fun k : Connection σ => { k with openCount := 0, openedHere := false }) same
  · refine ⟨rfl, ?_⟩
    exact congrArg (fun k : Connection σ =>
      { k with openCount := c'.openCount - 1, openedHere := c'.openedHere }) same

theorem logger_released (c : Connection σ) : c.released.1.logger = c.logger := by
  unfold Connection.released
  split <;> rfl

end Blur

namespace ConnectionId

variable [Driver σ] {b : Blur} {heeds : Prop} (even : b.forms = true → Driver.Even σ)
  {mode mode' : Mode} (forms : b.Forms heeds mode mode') (c : ConnectionId)
include even forms

theorem match_openNative :
    Attempt.Match b heeds id (openNative mode c : Attempt σ Bool) (openNative mode' c) := by
  unfold openNative
  refine Attempt.match_get.bind fun s s' same => ?_
  rw [Blur.scene_eq same]
  refine .ite (fun _ => .pure rfl) fun _ => ?_
  refine (Attempt.match_trace _ _ _ ?_).andThen fun _ => ?_
  · simp only [List.map_cons, Blur.field_isAsync, Blur.mark_isAsync forms.same]
  · have called : Attempt.Match b heeds id
        (c.callNative .openConnection Driver.openConnection mode : Attempt σ Unit)
        (c.callNative .openConnection Driver.openConnection mode') :=
      Attempt.match_call (by simp only [Blur.call, forms.same])
        (forms.perform fun overlooked => (even overlooked).openConnection c)
    refine called.outcomeThen fun o => ?_
    rcases o with failure | _
    · cases failure with
      | error e => exact (Attempt.match_trace _ _ _ rfl).andThen fun _ => Attempt.match_throw _
      | cancelled reason => exact Attempt.match_throw _
      | panicked message => exact Attempt.match_throw _
    · exact (Attempt.match_trace _ _ _ rfl).andThen fun _ => .pure rfl

theorem match_acquire :
    Attempt.Match b heeds id (acquire mode c : Attempt σ Bool) (acquire mode' c) := by
  refine (match_openNative even forms c).andThen fun opened => ?_
  have counted : Engine.Match (σ := σ) b heeds id _ _ :=
    Engine.match_modifyConnection c (f := (·.acquired opened))
      (fun _ _ same => congrArg (·.acquired opened) same) fun _ => rfl
  exact (Attempt.match_lift counted).andThen fun _ => .pure rfl

theorem match_release :
    Attempt.Match b heeds id (release mode c : Attempt σ Bool) (release mode' c) := by
  have gives : Engine.Match b heeds id
      (fun s : Session σ =>
        ((s.connections c).released.2, s.setConnection c (s.connections c).released.1))
      fun s => ((s.connections c).released.2, s.setConnection c (s.connections c).released.1) := by
    refine ⟨fun s => reveals_of_scene_eq rfl rfl, fun {s t} alike _ => ?_⟩
    obtain ⟨closes, same⟩ := Blur.released_eq (Blur.connection_eq alike.same c)
    refine ⟨closes, alike.setConnection c same ?_⟩
    rw [Blur.logger_released, Blur.logger_released]
    exact alike.heard c
  have rest : ∀ closes : Bool, Attempt.Match b heeds id (do
      if !closes then return false
      Attempt.trace .debug connectionTarget "Closing connection"
        [connectionField c, ("is_async", .bool mode.isAsync)]
      c.callNative .closeConnection Driver.closeConnection mode
      return true : Attempt σ Bool) (do
      if !closes then return false
      Attempt.trace .debug connectionTarget "Closing connection"
        [connectionField c, ("is_async", .bool mode'.isAsync)]
      c.callNative .closeConnection Driver.closeConnection mode'
      return true) := fun closes => by
    refine .ite (fun _ => .pure rfl) fun _ => (Attempt.match_trace _ _ _ ?_).andThen fun _ => ?_
    · simp only [List.map_cons, Blur.field_isAsync, Blur.mark_isAsync forms.same]
    · refine Attempt.Match.andThen (Attempt.match_call (by simp only [Blur.call, forms.same])
        (forms.perform fun overlooked => (even overlooked).closeConnection c)) fun _ => .pure rfl
  exact (Attempt.match_lift gives).andThen rest

theorem match_releaseOutcome :
    Engine.Match b heeds id (releaseOutcome mode c : Engine σ (Outcome Unit))
      (releaseOutcome mode' c) :=
  (match_release even forms c).seen.andThen fun _ => .pure rfl

end ConnectionId

end SqlExecution
