import Mathlib.Data.List.Find
import Mathlib.Data.List.Forall2
import SqlExecution.Diagnostics.Logger
import SqlExecution.Engine.Execution

/-! Parameter values that agree in shape. They are bound to native parameters that are the same but
for the values, a binding that fails does so in the same way, and a logger that hides values
describes the commands in the same way. -/

namespace SqlExecution

/-- The two differ in nothing but the value. -/
def NativeParameter.UpToValue (p p' : NativeParameter) : Prop := p' = { p with value := p'.value }

theorem NativeParameter.UpToValue.logText {p p' : NativeParameter} (alike : p.UpToValue p') :
    p'.logText false = p.logText false := by
  rw [alike]
  rfl

theorem NativeParameter.logTexts_upToValue {ps ps' : List NativeParameter}
    (alike : List.Forall₂ UpToValue ps ps') : logTexts false ps' = logTexts false ps := by
  have texts : ps'.map (logText false) = ps.map (logText false) := by
    induction alike with
    | nil => rfl
    | cons same _ rest => exact congrArg₂ List.cons same.logText rest
  exact congrArg (String.intercalate ", ") texts

/-- The two differ in nothing but the values of their parameters. -/
structure NativeCommand.UpToValues (c c' : NativeCommand) : Prop where
  same : c' = { c with parameters := c'.parameters }
  parameters : List.Forall₂ NativeParameter.UpToValue c.parameters c'.parameters

namespace NativeCommand.UpToValues

variable {c c' : NativeCommand}

theorem refl (c : NativeCommand) : c.UpToValues c := ⟨rfl, List.forall₂_same.2 fun _ _ => rfl⟩

theorem text (alike : c.UpToValues c') : c'.text = c.text := by rw [alike.same]

theorem connection (alike : c.UpToValues c') : c'.connection = c.connection := by rw [alike.same]

theorem clear (alike : c.UpToValues c') : c.clear.UpToValues c'.clear := by
  refine ⟨?_, .nil⟩
  rw [alike.same]
  rfl

theorem configure {σ : Type} (alike : c.UpToValues c') (text : String) (k : Connection σ) :
    (c.configure text k).UpToValues (c'.configure text k) := by
  refine ⟨?_, alike.parameters⟩
  rw [alike.same]
  rfl

theorem addParameters (alike : c.UpToValues c') {ps ps' : List NativeParameter}
    (added : List.Forall₂ NativeParameter.UpToValue ps ps') :
    (c.addParameters ps).UpToValues (c'.addParameters ps') := by
  refine ⟨?_, List.rel_append alike.parameters added⟩
  rw [alike.same]
  rfl

theorem describe {σ : Type} {l : Logger σ} (hidden : l.options.sensitiveData = false)
    (alike : c.UpToValues c') : l.describe c' = l.describe c := by
  have timeout : c'.timeout = c.timeout := by rw [alike.same]
  unfold Logger.describe
  rw [hidden, timeout, NativeParameter.logTexts_upToValue alike.parameters]

end NativeCommand.UpToValues

namespace Parameter

mutual

/-- Values of the same shape: leaves are of the same type or both null, and where several parameters
take the items of an array, both are arrays of one length or neither is one. -/
def Agree : Parameter → Value → Value → Prop
  | mapped .., v, v' => v'.dbType = v.dbType
  | raw .., v, v' => v'.dbType = v.dbType
  | composite _ parts, v, v' => Option.Rel
      (fun items items' => items'.length = items.length ∧ AgreeParts parts items items')
      v.array? v'.array?

def AgreeParts : List Parameter → List Value → List Value → Prop
  | p :: ps, v :: vs, v' :: vs' => p.Agree v v' ∧ AgreeParts ps vs vs'
  | _, _, _ => True

end

/-- For each of the parameters both have a value of the same shape, or neither has one. -/
def Values.Agree (parameters : List Parameter) (values values' : Values) : Prop :=
  ∀ p ∈ parameters, Option.Rel p.Agree (values.find? p.invariant) (values'.find? p.invariant)

namespace Binding

/-- What is added differs in nothing but the values, and what stopped the binding is the same. -/
structure Alike (b b' : Binding) : Prop where
  result : b'.result = b.result
  added : List.Forall₂ NativeParameter.UpToValue b.added b'.added

/-- What is bound after this, unless it failed. -/
def andThen (b rest : Binding) : Binding :=
  match b.result with
  | .ok _ => ⟨b.added ++ rest.added, rest.result⟩
  | .error e => ⟨b.added, .error e⟩

theorem Alike.failed (e : Error) : Alike ⟨[], .error e⟩ ⟨[], .error e⟩ := ⟨rfl, .nil⟩

theorem Alike.bound {ps ps' : List NativeParameter}
    (same : List.Forall₂ NativeParameter.UpToValue ps ps') : Alike ⟨ps, .ok ()⟩ ⟨ps', .ok ()⟩ :=
  ⟨rfl, same⟩

theorem Alike.andThen {b b' rest rest' : Binding} (first : b.Alike b') (later : rest.Alike rest') :
    (b.andThen rest).Alike (b'.andThen rest') := by
  unfold Binding.andThen
  rw [first.result]
  cases b.result with
  | ok _ => exact ⟨later.result, List.rel_append first.added later.added⟩
  | error e => exact ⟨rfl, first.added⟩

end Binding

theorem bindParts_cons (p : Parameter) (ps : List Parameter) (v : Value) (vs : List Value) :
    bindParts (p :: ps) (v :: vs) = (p.bindValue v).andThen (bindParts ps vs) := by
  rw [bindParts, Binding.andThen]
  rcases p.bindValue v with ⟨added, _ | _⟩ <;> rfl

theorem bindAll_cons (values : Values) (p : Parameter) (ps : List Parameter) :
    bindAll values (p :: ps) = (p.bind values).andThen (bindAll values ps) := by
  rw [bindAll, Binding.andThen]
  rcases p.bind values with ⟨added, _ | _⟩ <;> rfl

mutual

theorem bindValue_alike : (p : Parameter) → {v v' : Value} → p.Agree v v' →
    (p.bindValue v).Alike (p.bindValue v')
  | mapped i name mapping nullable direction, v, v', agree => by
    have same : v'.dbType = v.dbType := agree
    have null : v'.isNull = v.isNull := by
      rw [Bool.eq_iff_iff, ← Value.dbType_eq_none_iff, same, Value.dbType_eq_none_iff]
    simp only [bindValue, same, null]
    exact .bound (.cons rfl .nil)
  | raw i template, v, v', _ => by
    simp only [bindValue]
    exact .bound (.cons rfl .nil)
  | composite i parts, v, v', agree => by
    rw [Agree] at agree
    rw [bindValue, bindValue]
    generalize v.array? = items at agree
    generalize v'.array? = items' at agree
    cases agree with
    | none => exact .failed _
    | some both =>
      obtain ⟨lengths, agree⟩ := both
      dsimp only
      rw [lengths]
      split
      · exact bindParts_alike parts lengths agree
      · exact .failed _

theorem bindParts_alike : (ps : List Parameter) → {vs vs' : List Value} →
    vs'.length = vs.length → AgreeParts ps vs vs' → (bindParts ps vs).Alike (bindParts ps vs')
  | [], vs, vs', _, _ => by
    simp only [bindParts]
    exact .bound .nil
  | p :: ps, [], [], _, _ => by
    simp only [bindParts]
    exact .bound .nil
  | p :: ps, v :: vs, v' :: vs', lengths, agree => by
    rw [AgreeParts] at agree
    rw [bindParts_cons, bindParts_cons]
    exact (bindValue_alike p agree.1).andThen
      (bindParts_alike ps (Nat.succ_inj.1 lengths) agree.2)

end

theorem bind_alike {p : Parameter} {values values' : Values}
    (agree : Option.Rel p.Agree (values.find? p.invariant) (values'.find? p.invariant)) :
    (p.bind values).Alike (p.bind values') := by
  unfold bind
  generalize values.find? p.invariant = v at agree
  generalize values'.find? p.invariant = v' at agree
  cases agree with
  | none => exact .failed _
  | some same => exact bindValue_alike p same

theorem bindAll_alike {values values' : Values} {ps : List Parameter}
    (agree : Values.Agree ps values values') :
    (bindAll values ps).Alike (bindAll values' ps) := by
  induction ps with
  | nil => exact .bound .nil
  | cons p ps rest =>
    rw [bindAll_cons, bindAll_cons]
    exact (bind_alike (agree p (by simp))).andThen (rest fun q later => agree q (by simp [later]))

theorem checkValues_agree {values values' : Option Values} {ps : List Parameter}
    (agree : Option.Rel (Values.Agree ps) values values') :
    checkValues ps values' = checkValues ps values := by
  cases ps with
  | nil => rfl
  | cons p rest =>
    cases agree with
    | none => rfl
    | @some values values' agree =>
      have missing : ∀ q ∈ p :: rest, (values'.find? q.invariant).isNone =
          (values.find? q.invariant).isNone := fun q member => by
        have found := agree q member
        generalize values.find? q.invariant = v at found
        generalize values'.find? q.invariant = v' at found
        cases found <;> rfl
      unfold checkValues
      dsimp only
      rw [List.find?_congr missing]

end Parameter

namespace Statement

variable {s : Statement} {values values' : Option Parameter.Values}
  (agree : Option.Rel (Parameter.Values.Agree s.parameters) values values')
include agree

theorem validate_agree : s.validate values' = s.validate values :=
  Parameter.checkValues_agree agree

theorem bind_agree : (s.bind values).Alike (s.bind values') := by
  obtain ⟨text, parameters⟩ := s
  cases agree with
  | none => cases parameters <;> exact ⟨rfl, .nil⟩
  | some agree =>
    cases parameters with
    | nil => exact .bound .nil
    | cons p ps => exact Parameter.bindAll_alike agree

end Statement

end SqlExecution
