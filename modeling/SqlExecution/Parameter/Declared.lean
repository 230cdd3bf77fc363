import SqlExecution.Outcome
import SqlExecution.Parameter.Native

/-! Declared parameters and their binding. Each declared parameter turns one value, found by its
invariant name, into native parameters. -/

namespace SqlExecution

inductive Parameter where
  /-- One native parameter, of the mapped type or else of the type of its value. -/
  | mapped (invariant name : String) (mapping : Option TypeMapping) (nullable : Option Bool)
      (direction : Direction)
  /-- Several parameters that take the items of an array in order. -/
  | composite (invariant : String) (parts : List Parameter)
  /-- A native parameter made beforehand, which only takes the value. -/
  | raw (invariant : String) (template : NativeParameter)

namespace Parameter

def of (name : String) : Parameter := .mapped name name none none .input

def withDirection (direction : Direction) : Parameter → Parameter
  | mapped invariant name mapping nullable _ => mapped invariant name mapping nullable direction
  | p => p

def invariant : Parameter → String
  | mapped i _ _ _ _ => i
  | composite i _ => i
  | raw i _ => i

/-- What binding adds to a command, and the error that stopped it. -/
structure Binding where
  added : List NativeParameter
  result : Result Unit

def notAnArray (invariant : String) (expected : Nat) : Error :=
  .parameter .mismatch invariant ("Composite parameter '" ++ invariant ++ "' expects an array of "
    ++ Value.intText expected ++ " values.")

def wrongLength (invariant : String) (expected supplied : Nat) : Error :=
  .parameter .mismatch invariant ("Composite parameter '" ++ invariant ++ "' expects "
    ++ Value.intText expected ++ " values but " ++ Value.intText supplied ++ " were supplied.")

mutual

/-- Bind a value. Parts of a composite are bound in order, and those bound before a failing one stay
bound. -/
def bindValue : Parameter → Value → Binding
  | mapped _ name mapping nullable direction, v =>
    ⟨[⟨name, v, (mapping.bind (·.dbType)).or v.dbType, direction, nullable.getD v.isNull,
      mapping.bind (·.size)⟩], .ok ()⟩
  | raw _ template, v => ⟨[{ template with value := v }], .ok ()⟩
  | composite i parts, v =>
    match v.array? with
    | none => ⟨[], .error (notAnArray i parts.length)⟩
    | some items =>
      if items.length = parts.length then bindParts parts items
      else ⟨[], .error (wrongLength i parts.length items.length)⟩

def bindParts : List Parameter → List Value → Binding
  | p :: ps, v :: vs =>
    match p.bindValue v with
    | ⟨added, .ok ()⟩ => let rest := bindParts ps vs; ⟨added ++ rest.added, rest.result⟩
    | ⟨added, .error e⟩ => ⟨added, .error e⟩
  | _, _ => ⟨[], .ok ()⟩

end

/-- The values of a request by invariant name. -/
abbrev Values := List (String × Value)

def Values.find? (values : Values) (name : String) : Option Value :=
  (List.find? (·.1 == name) values).map (·.2)

def bind (p : Parameter) (values : Values) : Binding :=
  match values.find? p.invariant with
  | none => ⟨[], .error (.missingParameter p.invariant)⟩
  | some v => p.bindValue v

def bindAll (values : Values) : List Parameter → Binding
  | [] => ⟨[], .ok ()⟩
  | p :: ps =>
    match p.bind values with
    | ⟨added, .ok ()⟩ => let rest := bindAll values ps; ⟨added ++ rest.added, rest.result⟩
    | ⟨added, .error e⟩ => ⟨added, .error e⟩

/-- Every declared parameter has a value, or the first without one is named. -/
def checkValues (parameters : List Parameter) (values : Option Values) : Result Unit :=
  match parameters, values with
  | [], _ => .ok ()
  | p :: _, none => .error (.missingParameter p.invariant)
  | ps, some values =>
    match ps.find? fun p => (values.find? p.invariant).isNone with
    | some p => .error (.missingParameter p.invariant)
    | none => .ok ()

open Text

mutual

def inspect : Parameter → String
  | mapped i name mapping nullable direction =>
    recordText "TypeMapped" [field "invariant_name" (quoted i), field "name" (quoted name),
      field "type_mapping" (optionText (mapping.map TypeMapping.inspect)),
      field "nullable" (optionText (nullable.map boolText)), field "direction" direction.name]
  | composite i parts =>
    recordText "Composite" [field "invariant_name" (quoted i),
      field "parameters" (listText (inspectParts parts))]
  | raw i template =>
    recordText "Raw" [field "invariant_name" (quoted i), field "template" template.inspect]

def inspectParts : List Parameter → List String
  | [] => []
  | p :: ps => p.inspect :: inspectParts ps

end

end Parameter

end SqlExecution
